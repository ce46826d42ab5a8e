import LinkSieve.CommandLine.Invocation
import LinkSieve.Proofs.Expression.Definition
/-!
# What a command line gives

Every option that a command line gives is one that its level has, with a value that this option reads.
This holds for options that are given by name or by letter, with their value behind them or in the next
argument, on both levels. So what an option refuses is in no invocation; above all, every definition of
an invocation was read from a text.
-/

namespace LinkSieve.CommandLine

open Expression

/-- Whether an option, with its name, is one that can be given in this form. -/
def OptionSpec.Gives (spec : OptionSpec) (option : String × Setting) : Prop :=
  option.1 = spec.name ∧
    match spec.form with
    | .flag setting => option.2 = setting
    | .valued read => ∃ text, read text = some option.2

/-- Whether options are among those of a level. -/
def Level.Gives (level : Level) (given : Given) : Prop :=
  ∀ option ∈ given, ∃ spec ∈ level.options, spec.Gives option

/-- Whether options are among those of a level, and so is one whose value is still to come. -/
def Progress.IsOf (progress : Progress) (level : Level) : Prop :=
  level.Gives progress.given ∧
    ∀ spec read, progress.pending = some (spec, read) →
      spec ∈ level.options ∧ spec.form = .valued read

namespace Level

variable {level : Level} {given next : Given} {spec : OptionSpec}

/-- What is looked up by its name is an option of the level. -/
theorem mem_of_byName? {name : String} (found : level.byName? name = some (.option spec)) :
    spec ∈ level.options := by
  unfold byName? at found
  split at found
  next => cases found
  next =>
    split at found
    next => cases found
    next =>
      obtain ⟨other, present, same⟩ := Option.map_eq_some_iff.mp found
      cases same
      exact List.mem_of_find?_eq_some present

/-- What is looked up by its letter is an option of the level. -/
theorem mem_of_byLetter? {letter : Char} (found : level.byLetter? letter = some (.option spec)) :
    spec ∈ level.options := by
  unfold byLetter? at found
  split at found
  next => cases found
  next =>
    split at found
    next => cases found
    next =>
      obtain ⟨other, present, same⟩ := Option.map_eq_some_iff.mp found
      cases same
      exact List.mem_of_find?_eq_some present

/-- An option of the level may be added. -/
theorem gives_of_give (gives : level.Gives given) (member : spec ∈ level.options)
    {setting : Setting} (fits : spec.Gives (spec.name, setting))
    (added : give given spec setting = .ok next) : level.Gives next := by
  unfold give at added
  split at added
  next => cases added
  next =>
    cases added
    intro option inNext
    rcases List.mem_append.mp inNext with old | new
    · exact gives option old
    · obtain rfl := List.mem_singleton.mp new
      exact ⟨spec, member, fits⟩

/-- A flag of the level may be added. -/
theorem gives_of_flag (gives : level.Gives given) (member : spec ∈ level.options)
    {setting : Setting} (form : spec.form = .flag setting)
    (added : give given spec setting = .ok next) : level.Gives next :=
  gives_of_give gives member ⟨rfl, by rw [form]⟩ added

/-- An option of the level may be added with a value that it reads. -/
theorem gives_of_giveValue (gives : level.Gives given) (member : spec ∈ level.options)
    {read : String → Option Setting} (form : spec.form = .valued read) {value : String}
    (added : giveValue given spec read value = .ok next) : level.Gives next := by
  unfold giveValue at added
  split at added
  next setting known => exact gives_of_give gives member ⟨rfl, by rw [form]; exact ⟨value, known⟩⟩ added
  next => cases added

end Level

/-- Nothing is to come behind options that are complete. -/
theorem Progress.IsOf.complete {level : Level} {given : Given} (gives : level.Gives given) :
    Progress.IsOf ⟨given, none⟩ level :=
  ⟨gives, fun _ _ pending => by cases pending⟩

/-- A value is to come behind an option of the level. -/
theorem Progress.IsOf.pending {level : Level} {given : Given} (gives : level.Gives given)
    {spec : OptionSpec} (member : spec ∈ level.options) {read : String → Option Setting}
    (form : spec.form = .valued read) : Progress.IsOf ⟨given, some (spec, read)⟩ level := by
  refine ⟨gives, fun other otherRead pending => ?_⟩
  cases pending
  exact ⟨member, form⟩

variable {level : Level} {given : Given} {progress : Progress}

/-- An option that is given by its name is one of the level. -/
theorem isOf_readName (gives : level.Gives given) {text : List Char}
    (accepted : readName level given text = .ok progress) : progress.IsOf level := by
  unfold readName at accepted
  dsimp only at accepted
  split at accepted
  next => cases accepted
  next => split at accepted <;> cases accepted
  next => split at accepted <;> cases accepted
  next spec found =>
    have member := Level.mem_of_byName? found
    split at accepted
    next setting form _ =>
      obtain ⟨next, added, same⟩ := exists_of_bind_eq_ok accepted
      cases same
      exact .complete (Level.gives_of_flag gives member form added)
    next => cases accepted
    next read form _ =>
      cases accepted
      exact .pending gives member form
    next read _ value form _ =>
      obtain ⟨next, added, same⟩ := exists_of_bind_eq_ok accepted
      cases same
      exact .complete (Level.gives_of_giveValue gives member form added)

/-- Options that are given by their letters are some of the level. The induction is on the letters. -/
theorem isOf_readLetters (gives : level.Gives given) {letters : List Char}
    (accepted : readLetters level given letters = .ok progress) : progress.IsOf level := by
  induction letters generalizing given with
  | nil =>
    cases accepted
    exact .complete gives
  | cons letter rest inductionHypothesis =>
    unfold readLetters at accepted
    split at accepted
    next => cases accepted
    next => cases accepted
    next => cases accepted
    next spec found =>
      have member := Level.mem_of_byLetter? found
      split at accepted
      next setting form =>
        obtain ⟨next, added, others⟩ := exists_of_bind_eq_ok accepted
        exact inductionHypothesis (Level.gives_of_flag gives member form added) others
      next read form =>
        cases accepted
        exact .pending gives member form
      next read form =>
        obtain ⟨next, added, same⟩ := exists_of_bind_eq_ok accepted
        cases same
        exact .complete (Level.gives_of_giveValue gives member form added)
      next read form _ _ =>
        obtain ⟨next, added, same⟩ := exists_of_bind_eq_ok accepted
        cases same
        exact .complete (Level.gives_of_giveValue gives member form added)

/-- Reads options from an argument, if it looks like some. -/
def readOptions? (level : Level) (given : Given) (argument : String) :
    Option (Except Stop Progress) :=
  match shape argument with
  | .name text => some (readName level given text)
  | .letters text => some (readLetters level given text)
  | .operand | .separator => none

/-- Options that are read from an argument are some of the level. -/
theorem isOf_readOptions? (gives : level.Gives given) {argument : String}
    (accepted : readOptions? level given argument = some (.ok progress)) :
    progress.IsOf level := by
  unfold readOptions? at accepted
  split at accepted
  next text _ => exact isOf_readName gives (Option.some.inj accepted)
  next text _ => exact isOf_readLetters gives (Option.some.inj accepted)
  next => cases accepted
  next => cases accepted

/-- What a scan does behind options: it goes on with the next argument, or it reads that argument as the
value that is still to come. -/
def resume (level : Level) (operands rest : List String) (progress : Progress) :
    Except Stop Scanned :=
  match progress.pending, rest with
  | none, rest => scan level progress.given operands rest
  | some (spec, _), [] => .error (.misuse (.missingValue spec.name))
  | some (spec, read), value :: rest =>
    if shape value = .operand then do
      scan level (← giveValue progress.given spec read value) operands rest
    else .error (.misuse (.missingValue spec.name))

/-- Behind an argument with options, the scan goes on with what was read from it. -/
theorem scan_of_options {argument : String} {read : Except Stop Progress}
    (options : readOptions? level given argument = some read) (operands rest : List String) :
    scan level given operands (argument :: rest) = read >>= resume level operands rest := by
  unfold readOptions? at options
  rw [scan.eq_def]
  dsimp only
  cases looks : shape argument <;> rw [looks] at options <;> cases options <;> dsimp only
  all_goals
    split
    next failed => rw [failed]; rfl
    next complete => rw [complete]; rfl
    next pending =>
      rw [pending]
      cases rest with
      | nil => rfl
      | cons value rest =>
        simp only [bind, Except.bind, resume]
        cases giveValue _ _ _ value <;> rfl

/-- Behind an argument without options the scan ends, or it goes on with the options that it has. -/
theorem scan_of_no_options {argument : String} (none : readOptions? level given argument = none)
    {operands rest : List String} {scanned : Scanned}
    (accepted : scan level given operands (argument :: rest) = .ok scanned) :
    scanned.given = given ∨ ∃ more, scan level given more rest = .ok scanned := by
  unfold readOptions? at none
  rw [scan.eq_def] at accepted
  dsimp only at accepted
  cases looks : shape argument <;> rw [looks] at none accepted <;> dsimp only at none accepted
  case operand =>
    split at accepted
    next =>
      cases accepted
      exact Or.inl rfl
    next => exact Or.inr ⟨_, accepted⟩
  case separator =>
    split at accepted
    next => cases accepted
    next =>
      cases accepted
      exact Or.inl rfl
  all_goals cases none

/-- All options of a level are given by it. The induction is on the number of arguments, because the scan
passes over one argument or, for an option whose value comes next, over two. -/
theorem gives_of_scan (gives : level.Gives given) {operands arguments : List String}
    {scanned : Scanned} (accepted : scan level given operands arguments = .ok scanned) :
    level.Gives scanned.given := by
  induction bound : arguments.length using Nat.strong_induction_on
    generalizing given operands arguments with
  | _ bound inductionHypothesis =>
    subst bound
    cases arguments with
    | nil =>
      cases accepted
      exact gives
    | cons argument rest =>
      cases options : readOptions? level given argument with
      | none =>
        rcases scan_of_no_options options accepted with same | ⟨more, others⟩
        · rwa [same]
        · exact inductionHypothesis rest.length (by simp) gives others rfl
      | some read =>
        rw [scan_of_options options] at accepted
        obtain ⟨⟨next, pending⟩, rfl, others⟩ := exists_of_bind_eq_ok accepted
        obtain ⟨nextGives, readable⟩ := isOf_readOptions? gives options
        cases pending with
        | none => exact inductionHypothesis rest.length (by simp) nextGives others rfl
        | some option =>
          obtain ⟨spec, read⟩ := option
          obtain ⟨member, form⟩ := readable spec read rfl
          cases rest with
          | nil => cases others
          | cons value rest =>
            unfold resume at others
            dsimp only at others
            split at others
            next =>
              obtain ⟨last, added, others⟩ := exists_of_bind_eq_ok others
              have lastGives := Level.gives_of_giveValue nextGives member form added
              have shorter : rest.length < (argument :: value :: rest).length := by
                simp only [List.length_cons]
                omega
              exact inductionHypothesis rest.length shorter lastGives others rfl
            next => cases others

/-- The options that a command line gives on its two levels. -/
theorem exists_given_of_parse {configVariable : Option String} {arguments : List String}
    {invocation : Command.Invocation} (accepted : parse configVariable arguments = .ok invocation) :
    ∃ verb : Verb, ∃ outer inner task,
      Level.Gives ⟨sharedOptions, true⟩ outer ∧
      Level.Gives ⟨sharedOptions ++ verb.options, false⟩ inner ∧
      invocation = CommandLine.invocation (outer.merge inner) configVariable task := by
  obtain ⟨outer, outerRead, accepted⟩ := exists_of_bind_eq_ok accepted
  have outerGives := gives_of_scan (fun _ member => by cases member) outerRead
  split at accepted
  next => cases accepted
  next =>
    split at accepted
    next => cases accepted
    next verb _ =>
      obtain ⟨inner, innerRead, accepted⟩ := exists_of_bind_eq_ok accepted
      have innerGives := gives_of_scan (fun _ member => by cases member) innerRead
      obtain ⟨-, -, accepted⟩ := exists_of_bind_eq_ok accepted
      obtain ⟨-, -, accepted⟩ := exists_of_bind_eq_ok accepted
      obtain ⟨task, -, same⟩ := exists_of_bind_eq_ok accepted
      cases same
      exact ⟨verb, outer.given, inner.given, task, outerGives, innerGives, rfl⟩

/-- Whether a form of an option gives no definitions but those that are read from a text. -/
def Form.ReadsDefinitions : Form → Prop
  | .flag setting => ∀ definition, setting ≠ .define definition
  | .valued read => ∀ text definition, read text = some (.define definition) →
      ∃ written, Definition.parse written = .ok definition

namespace Form.ReadsDefinitions

/-- An option without a value gives a definition only if its setting is one. -/
theorem flag {setting : Setting} (other : ∀ definition, setting ≠ .define definition) :
    Form.ReadsDefinitions (.flag setting) :=
  other

/-- A choice between words gives no definition if none of its settings is one. -/
theorem choice (words : List (String × Setting))
    (others : ∀ word ∈ words, ∀ definition, word.2 ≠ .define definition) :
    Form.ReadsDefinitions (.valued (choice words)) := by
  intro text definition chosen
  obtain ⟨before, after, same, -⟩ := List.lookup_eq_some_iff.mp chosen
  have member : (text, Setting.define definition) ∈ words := by simp [same]
  exact absurd rfl (others _ member definition)

/-- A path is not empty, and gives no definition if its setting is none. -/
theorem path {setting : String → Setting}
    (other : ∀ text definition, setting text ≠ .define definition) :
    Form.ReadsDefinitions (.valued (path setting)) := by
  intro text definition accepted
  unfold CommandLine.path at accepted
  split at accepted
  next => cases accepted
  next => exact absurd (Option.some.inj accepted) (other text definition)

/-- Any text may be the value, and gives no definition if its setting is none. -/
theorem free {setting : String → Setting}
    (other : ∀ text definition, setting text ≠ .define definition) :
    Form.ReadsDefinitions (.valued (some ∘ setting)) :=
  fun text definition accepted => absurd (Option.some.inj accepted) (other text definition)

/-- A definition is read from its text. -/
theorem definition : Form.ReadsDefinitions (.valued definition) := by
  intro text definition accepted
  unfold CommandLine.definition at accepted
  split at accepted
  next read =>
    cases accepted
    exact ⟨text, read⟩
  next => cases accepted

/-- A number of seconds is never a definition. -/
theorem seconds : Form.ReadsDefinitions (.valued seconds) := by
  intro text definition accepted
  unfold CommandLine.seconds at accepted
  dsimp only at accepted
  split at accepted <;> split at accepted <;> cases accepted

end Form.ReadsDefinitions

/-- The options of a level give no definitions but those that are read from a text. -/
theorem readsDefinitions_of_mem {verb : Verb} :
    ∀ spec ∈ sharedOptions ++ verb.options, spec.form.ReadsDefinitions := by
  have policies := Form.ReadsDefinitions.choice
    ([InvalidPatternPolicy.fail, .neverMatch].map fun policy =>
      (policy.name, .onInvalidPattern policy)) (by simp)
  have formats := Form.ReadsDefinitions.choice
    [("text", .format .text), ("json", .format .json)] (by simp)
  have modes := Form.ReadsDefinitions.choice
    [("auto", .color .auto), ("always", .color .always), ("never", .color .never)] (by simp)
  have shared : ∀ spec ∈ sharedOptions, spec.form.ReadsDefinitions := by
    simp only [sharedOptions, configOption, List.forall_mem_cons]
    exact ⟨.flag (by simp), .flag (by simp), policies, .definition, .path (by simp), formats,
      .path (by simp), modes, .flag (by simp), .flag (by simp), by simp⟩
  have ofPages : ∀ spec ∈ pageOptions, spec.form.ReadsDefinitions := by
    simp only [pageOptions, List.forall_mem_cons]
    exact ⟨.free (by simp), .free (by simp), by simp⟩
  refine List.forall_mem_append.mpr ⟨shared, ?_⟩
  cases verb with
  | check => exact List.forall_mem_singleton.mpr (.flag (by simp))
  | test => exact List.forall_mem_singleton.mpr (.flag (by simp))
  | links => exact ofPages
  | harvest =>
    refine List.forall_mem_append.mpr ⟨ofPages, ?_⟩
    simp only [List.forall_mem_cons]
    exact ⟨.path (by simp), .seconds, by simp⟩

/-- Every definition of an invocation was read from a text. -/
theorem exists_parse_of_mem_definitions {configVariable : Option String} {arguments : List String}
    {invocation : Command.Invocation} (accepted : parse configVariable arguments = .ok invocation)
    {definition : Definition} (member : definition ∈ invocation.definitions) :
    ∃ text, Definition.parse text = .ok definition := by
  obtain ⟨verb, outer, inner, task, outerGives, innerGives, rfl⟩ := exists_given_of_parse accepted
  obtain ⟨⟨name, setting⟩, given, defines⟩ := List.mem_filterMap.mp member
  have gives : ∃ spec ∈ sharedOptions ++ verb.options, spec.Gives (name, setting) := by
    rcases List.mem_append.mp given with inOuter | inInner
    · obtain ⟨spec, known, gives⟩ := outerGives _ (List.mem_filter.mp inOuter).1
      exact ⟨spec, List.mem_append_left _ known, gives⟩
    · exact innerGives _ inInner
  obtain ⟨spec, known, -, gives⟩ := gives
  have reads := readsDefinitions_of_mem spec known
  cases setting <;> cases defines
  cases form : spec.form with
  | flag setting => 
    rw [form] at gives reads
    exact absurd gives.symm (reads definition)
  | valued read =>
    rw [form] at gives reads
    obtain ⟨text, accepted⟩ := gives
    exact reads text definition accepted

end LinkSieve.CommandLine
