import LinkSieve.Program
import LinkSieve.Regex.Compile
import LinkSieve.Proofs.Command.Console
import LinkSieve.Proofs.Harvest.Replay
/-!
# Failures of the program

A command is prepared before it is begun: its configuration is loaded, the definitions are applied, and
the expression is read and compiled. Nothing but the configuration file is read for that. If it fails,
the program shows nothing and leaves all files alone.

Every command shows its results when all of them are known, and then it has nothing left to do but to
write them to a file. So a command that fails has shown nothing, or it has shown everything and only
the file could not be written.

Both hold on every machine, with a transcript for its console. What a machine does with its files is
left open, except that reading a file changes none of them.
-/

namespace LinkSieve

variable {σ : Type} {files : Files.System (StateM σ)}

/-- Loading a configuration changes nothing. -/
theorem Config.keeps_load (readsOnly : files.ReadsOnly) (path : Option String) :
    Keeps id (Config.load files path) := by
  cases path with
  | none => exact .pure _
  | some path =>
    refine (readsOnly.readText path).bind fun result => ?_
    cases result <;> exact .pure _

end LinkSieve

namespace LinkSieve.Command

open Files

variable {σ α : Type}

/-! ## Preparing a command -/

/-- The expression that a task is about. -/
def Task.expression : Task → String
  | .check expression _ => expression
  | .test expression _ _ => expression
  | .links _ expression _ => expression
  | .harvest _ expression _ _ _ => expression

/-- What has to succeed before a task is begun: the configuration is loaded, the definitions are
applied, and the expression is read and compiled. -/
def Invocation.prepare {m : Type → Type} [Monad m] (invocation : Invocation) (machine : Machine m) :
    ExceptT Failure m Filter := do
  let config ← perform .config (Config.load machine.files invocation.config)
  let matching ← settle id (Matching.ofInvocation machine.engine invocation config)
  settle id (matching.filter invocation.task.expression)

/-- Preparing a command changes nothing. -/
theorem Invocation.keeps_prepare {machine : Machine (StateM σ)} (readsOnly : machine.files.ReadsOnly)
    (invocation : Invocation) : Keeps id (invocation.prepare machine).run := by
  refine (keeps_perform _ (Config.keeps_load readsOnly _)).run_bind fun config => ?_
  exact (keeps_settle id _).run_bind fun matching => keeps_settle id _

/-- A command is prepared beside the console. -/
theorem Invocation.isBeside_prepare (invocation : Invocation) (machine : Machine (StateM σ)) :
    IsBeside (invocation.prepare machine.transcribed.toMachine).run
      (invocation.prepare machine).run := by
  refine IsBeside.run_bind (.perform _ (.load machine.files _)) fun config => ?_
  exact IsBeside.run_bind (.settle id _) fun matching => .settle id _

section Begin

variable {host : Host (StateM σ)} {invocation : Invocation} {matching : Matching}
  {expression : String} {failure : Failure} {filter : Filter} {before between after : σ}

/-- Nothing is built from an expression that has no filter. -/
theorem Matching.run_build_of_error (fails : matching.filter expression = .error failure) :
    (matching.build host expression).run before = (.error failure, before) :=
  run_bind_of_error (run_settle_of_eq fails)

/-- The tokens of an expression are read before anything else of it. -/
theorem Matching.filter_eq_error_of_tokens (fails : matching.tokens expression = .error failure) :
    matching.filter expression = .error failure := by
  unfold tokens at fails
  unfold filter Filter.parse
  cases read : Expression.tokenize expression matching.table with
  | ok tokens =>
    rw [read] at fails
    cases fails
  | error error =>
    rw [read] at fails
    rw [← Except.error.inj fails]
    rfl

/-- A check reads the tokens first. Where these cannot be read, there is no filter either, and for the
same reason. -/
theorem Check.run_of_filter_eq_error {listTokens : Bool}
    (fails : matching.filter expression = .error failure) :
    (Check.run host invocation matching expression listTokens).run before =
      (.error failure, before) := by
  cases read : matching.tokens expression with
  | ok tokens =>
    exact (run_bind_of_ok (run_settle_of_eq read)).trans
      (run_bind_of_error (Matching.run_build_of_error fails))
  | error other =>
    have same := Matching.filter_eq_error_of_tokens read
    rw [fails] at same
    cases same
    exact run_bind_of_error (run_settle_of_eq read)

/-- No task is begun without a filter. -/
theorem Task.run_of_filter_eq_error {task : Task} {config : Config}
    (fails : matching.filter task.expression = .error failure) :
    (task.run host invocation config matching).run before = (.error failure, before) := by
  cases task with
  | check expression listTokens => exact Check.run_of_filter_eq_error fails
  | test expression subjects showAll => exact run_bind_of_error (Matching.run_build_of_error fails)
  | links pages expression base => exact run_bind_of_error (Matching.run_build_of_error fails)
  | harvest pages expression base directory wait =>
    exact run_bind_of_error (Matching.run_build_of_error fails)

/-- A command that is not prepared is not begun. The steps of the preparation are those that the
command itself begins with, up to the first one that fails. -/
theorem Invocation.run_of_prepare_eq_error
    (fails : (invocation.prepare host.toMachine).run before = (.error failure, after)) :
    (invocation.run host).run before = (.error failure, after) := by
  rcases error_or_exists_of_run_bind fails with unloaded | ⟨config, loaded, loads, fails⟩
  · exact run_bind_of_error unloaded
  have begun : (invocation.run host).run before = _ := run_bind_of_ok loads
  rw [begun]
  rcases error_or_exists_of_run_bind fails with undefined | ⟨matching, applied, applies, fails⟩
  · exact run_bind_of_error undefined
  rw [run_bind_of_ok applies]
  obtain ⟨unread, rfl⟩ := eq_error_of_run_settle fails
  exact Task.run_of_filter_eq_error unread

/-- A command that is prepared is begun. -/
theorem Invocation.exists_run_of_prepare_eq_ok
    (prepared : (invocation.prepare host.toMachine).run before = (.ok filter, after)) :
    ∃ config matching, matching.filter invocation.task.expression = .ok filter ∧
      (invocation.run host).run before =
        (invocation.task.run (host.quieted invocation.quiet) invocation config matching).run
          after := by
  obtain ⟨config, loaded, loads, prepared⟩ := exists_of_run_bind_eq_ok prepared
  obtain ⟨matching, applied, applies, prepared⟩ := exists_of_run_bind_eq_ok prepared
  obtain ⟨compiled, rfl⟩ := eq_ok_of_run_settle prepared
  exact ⟨config, matching, compiled, (run_bind_of_ok loads).trans (run_bind_of_ok applies)⟩

end Begin

/-! ## Showing results -/

/-- A program that may write its results to a file shows nothing until it has nothing left to do but
that. Whichever file it is given, it fails in the same way without having shown anything more, or it
gets as far as writing the same results. -/
def Presents (machine : Machine (StateM σ))
    (program : Option String → ExceptT Failure (StateM (σ × Transcript)) Status) : Prop :=
  ∀ before,
    (∃ failure after, after.2.shown = before.2.shown ∧
      ∀ output, (program output).run before = (.error failure, after)) ∨
    ∃ status results between, ∀ output, (program output).run before =
      (do machine.transcribed.writeOutput output results; return status : ExceptT Failure _ _).run
        between

namespace Presents

variable {machine : Machine (StateM σ)} {quiet : Bool}

/-- A step that shows nothing and does not depend on the file may come first. -/
theorem bind {first : ExceptT Failure (StateM (σ × Transcript)) α}
    {next : α → Option String → ExceptT Failure (StateM (σ × Transcript)) Status}
    (silent : Keeps (·.2.shown) first.run) (presents : ∀ value, Presents machine (next value)) :
    Presents machine fun output => first >>= fun value => next value output := by
  intro before
  have shown := silent before
  cases step : first.run before with
  | mk result between =>
    rw [step] at shown
    cases result with
    | error failure =>
      exact Or.inl ⟨failure, between, shown, fun output => run_bind_of_error step⟩
    | ok value =>
      rcases presents value between with ⟨failure, after, same, fails⟩ | ⟨status, results, last, run⟩
      · refine Or.inl ⟨failure, after, same.trans shown, fun output => ?_⟩
        exact (run_bind_of_ok step).trans (fails output)
      · refine Or.inr ⟨status, results, last, fun output => ?_⟩
        exact (run_bind_of_ok step).trans (run output)

/-- The last thing before the results are written is that something is shown. -/
theorem show_and_write (shows : StateM (σ × Transcript) Unit) (results : String) (status : Status) :
    Presents machine fun output => do
      ExceptT.lift shows
      machine.transcribed.writeOutput output results
      return status := by
  intro before
  exact Or.inr ⟨status, results, (shows before).2, fun output => run_bind_of_ok (run_lift_of_eq rfl)⟩

/-- Results that are shown as they are written. -/
theorem emit (results : String) (status : Status) :
    Presents machine fun output => do
      (machine.transcribed.quieted quiet).emit output results
      return status := by
  simp only [Host.emit, bind_assoc]
  exact show_and_write _ results status

end Presents

section Silent

variable (machine : Machine (StateM σ)) (quiet : Bool)

/-- Building a filter shows nothing. -/
theorem keeps_build (matching : Matching) (expression : String) :
    Keeps (·.2.shown) (matching.build (machine.transcribed.quieted quiet) expression).run := by
  refine (keeps_settle id _).run_bind fun filter => Keeps.run_bind (.run_lift ?_) fun _ => .pure _
  rintro ⟨state, transcript⟩
  obtain ⟨messages, complained⟩ := exists_complain_lines machine quiet state (warnings filter)
    transcript.messages transcript.shown
  exact congrArg (·.2.2.shown) complained

/-- Reading a page shows nothing. -/
theorem keeps_readPage (path : String) :
    Keeps (·.2.shown) (machine.transcribed.readPage path).run :=
  (IsBeside.perform _ (.readText machine.files path)).keeps

/-- Adding the links of a page to a selection shows nothing. -/
theorem Links.keeps_addPage (filter : Filter) (base : Option String)
    (selection : LinkSieve.Harvest.Selection) (page : String) :
    Keeps (·.2.shown)
      (Links.addPage machine.transcribed.toMachine filter base selection page).run :=
  (keeps_readPage machine page).run_bind fun _ => .pure _

/-- Harvesting a page shows nothing. -/
theorem Harvest.keeps_addPage (rules : RetrievalRules) (directory : String) (wait : Option Nat)
    (filter : Filter) (base : Option String)
    (state : LinkSieve.Harvest.Progress × LinkSieve.Harvest.Report) (page : String) :
    Keeps (·.2.shown)
      (Harvest.addPage machine.transcribed.toMachine
        (Harvest.harvester machine.transcribed.toMachine rules directory wait) filter base state
        page).run := by
  refine (keeps_readPage machine page).run_bind fun html => Keeps.run_bind ?_ fun base => ?_
  · cases base with
    | some base => exact .pure _
    | none =>
      have resolves := IsBeside.perform (.pagePath page) (.of (machine.files.resolve page))
      exact resolves.keeps.run_bind fun _ => .pure _
  · refine Keeps.run_bind (.run_lift ?_) fun _ => .pure _
    have fetches (url destination : String) :=
      (IsBeside.fetch machine.files url destination).keeps
    have pauses (duration : Retrieval.Duration) := (IsBeside.of (machine.pause duration)).keeps
    exact LinkSieve.Harvest.Harvester.keeps_harvest _ fetches pauses _ _ _ _

end Silent

/-- The same command with another file for its results, or without one. -/
def Invocation.writing (invocation : Invocation) (output : Option String) : Invocation :=
  { invocation with output := output }

/-- Verdicts are shown before they are written. -/
theorem Test.presents_report (machine : Machine (StateM σ)) (quiet : Bool)
    (invocation : Invocation) (filter : Filter) (showAll : Bool) (verdicts : List Verdict)
    (status : Status) :
    Presents machine fun output => do
      report (machine.transcribed.quieted quiet) (invocation.writing output) filter showAll verdicts
      return status := by
  cases form : invocation.format with
  | text =>
    have unfolded (output : Option String) :
        report (machine.transcribed.quieted quiet) (invocation.writing output) filter showAll
          verdicts = (do
            ExceptT.lift ((lines (invocation.color.isActive machine.isTerminal) showAll
              verdicts).forM machine.transcribed.print)
            machine.transcribed.writeOutput output (String.join (lines false showAll verdicts))) := by
      rw [report, show (invocation.writing output).format = .text from form]
      rfl
    simp only [unfolded, bind_assoc]
    exact .show_and_write _ _ status
  | json =>
    have unfolded (output : Option String) :
        report (machine.transcribed.quieted quiet) (invocation.writing output) filter showAll
          verdicts = (machine.transcribed.quieted quiet).emit output
            ((document filter showAll verdicts).pretty ++ "\n") := by
      rw [report, show (invocation.writing output).format = .json from form]
      rfl
    simp only [unfolded]
    exact .emit _ status

/-- Each task shows its results last. -/
theorem Task.presents (task : Task) (machine : Machine (StateM σ)) (quiet : Bool)
    (invocation : Invocation) (config : Config) (matching : Matching) :
    Presents machine fun output =>
      task.run (machine.transcribed.quieted quiet) (invocation.writing output) config matching := by
  have builds (expression : String) := keeps_build machine quiet matching expression
  cases task with
  | check expression listTokens =>
    exact Presents.bind (keeps_settle id _) fun tokens =>
      Presents.bind (builds expression) fun filter =>
        .emit (Check.results invocation.format filter (if listTokens then some tokens else none))
          .found
  | test expression subjects showAll =>
    refine Presents.bind (builds expression) fun filter =>
      Presents.bind (IsBeside.readSubjects machine subjects).keeps fun tested => ?_
    exact Test.presents_report machine quiet invocation filter showAll _ _
  | links pages expression base =>
    exact Presents.bind (builds expression) fun filter =>
      Presents.bind (.run_foldlM (Links.keeps_addPage machine filter _) _ _) fun selection =>
        .emit (Links.results invocation.format pages filter selection) .found
  | harvest pages expression base directory wait =>
    refine Presents.bind (builds expression) fun filter =>
      Presents.bind (IsBeside.perform _ (.of (machine.files.createDirectories directory))).keeps
        fun _ => ?_
    exact Presents.bind
      (.run_foldlM (Harvest.keeps_addPage machine config.retrieval directory wait filter base) _ _)
        fun state =>
          .emit (Harvest.results invocation.format state.2) (.ofBool state.2.failed.isEmpty)

/-- Each command shows its results last. -/
theorem Invocation.presents (invocation : Invocation) (machine : Machine (StateM σ)) :
    Presents machine fun output => (invocation.writing output).run machine.transcribed := by
  have loads := (IsBeside.perform .config (.load machine.files invocation.config)).keeps
  refine Presents.bind loads fun config => ?_
  show Presents machine fun output =>
    settle id (Matching.ofInvocation machine.engine invocation config) >>= fun matching =>
      invocation.task.run (machine.transcribed.quieted invocation.quiet) (invocation.writing output)
        config matching
  exact Presents.bind (keeps_settle id _) fun matching =>
    invocation.task.presents machine invocation.quiet invocation config matching

/-- Writing results shows nothing more, and it can fail only if there is a file for them. -/
theorem run_writeOutput_cases (machine : Machine (StateM σ)) (output : Option String)
    (results : String) (status : Status) (before : σ) (transcript : Transcript) :
    let run := (do machine.transcribed.writeOutput output results; return status :
      ExceptT Failure (StateM (σ × Transcript)) Status).run (before, transcript)
    (∃ after,
      (∀ path, output = some path →
        machine.files.write path (Text.Utf8.encode results.toList) before = (.ok (), after)) ∧
      run = (.ok status, (after, transcript))) ∨
      ∃ path error after, output = some path ∧
        machine.files.write path (Text.Utf8.encode results.toList) before = (.error error, after) ∧
        run = (.error (.output path error), (after, transcript)) := by
  intro run
  cases output with
  | none => exact Or.inl ⟨before, by simp, rfl⟩
  | some path =>
    have step : (machine.transcribed.writeOutput (some path) results).run (before, transcript) =
        ((machine.files.write path (Text.Utf8.encode results.toList) before).1.mapError
            (.output path),
          ((machine.files.write path (Text.Utf8.encode results.toList) before).2, transcript)) := rfl
    cases written : machine.files.write path (Text.Utf8.encode results.toList) before with
    | mk result after =>
      rw [written] at step
      cases result with
      | ok done =>
        refine Or.inl ⟨after, ?_, run_bind_of_ok step⟩
        rintro _ ⟨⟩
        exact written
      | error error => exact Or.inr ⟨path, error, after, rfl, written, run_bind_of_error step⟩

/-- A command that fails after it has shown something has shown what it shows without a file for its
results, where it does not fail. What failed is writing that file. -/
theorem Invocation.exists_of_run_eq_error {invocation : Invocation} {machine : Machine (StateM σ)}
    {failure : Failure} {before after : σ} {transcript : Transcript}
    (fails : (invocation.run machine.transcribed).run (before, .empty) =
      (.error failure, (after, transcript))) (shows : transcript.shown ≠ "") :
    ∃ path error status content between,
      invocation.output = some path ∧ failure = .output path error ∧
      ((invocation.writing none).run machine.transcribed).run (before, .empty) =
        (.ok status, (between, transcript)) ∧
      machine.files.write path content between = (.error error, after) := by
  rcases invocation.presents machine (before, .empty) with
    ⟨cause, last, silent, failed⟩ | ⟨status, results, ⟨between, told⟩, run⟩
  · obtain ⟨-, rfl⟩ := Prod.mk.inj ((failed invocation.output).symm.trans fails)
    exact absurd silent shows
  · have ended := (run invocation.output).symm.trans fails
    rcases run_writeOutput_cases machine invocation.output results status between told with
      ⟨last, -, succeeded⟩ | ⟨path, error, last, named, written, failed⟩
    · cases (Prod.mk.inj (succeeded.symm.trans ended)).1
    · obtain ⟨same, left⟩ := Prod.mk.inj (failed.symm.trans ended)
      obtain ⟨rfl, rfl⟩ := Prod.mk.inj left
      exact ⟨path, error, status, _, between, named, (Except.error.inj same).symm, run none, written⟩

end LinkSieve.Command

namespace LinkSieve.Program

open Command Files

variable {σ : Type} {host : Host (StateM σ)} {configVariable : Option String}
  {arguments : List String} {invocation : Invocation} {before after : σ}

/-- A command that fails is followed by its message. -/
theorem run_of_error {failure : Failure}
    (read : CommandLine.parse configVariable arguments = .ok invocation)
    (fails : (invocation.run host).run before = (.error failure, after)) :
    run host configVariable arguments before =
      (failureCode, (host.complain ("Error: " ++ failure.message) after).2) := by
  rw [run, read]
  exact bind_apply_of_eq fails

/-- A command that does not fail gives the exit status. -/
theorem run_of_ok {status : Status}
    (read : CommandLine.parse configVariable arguments = .ok invocation)
    (succeeds : (invocation.run host).run before = (.ok status, after)) :
    run host configVariable arguments before = (status.code, after) := by
  rw [run, read]
  exact bind_apply_of_eq succeeds

/-- The program fails without a trace or with its whole output. It is run with any command line, on any
machine on which reading a file changes nothing, with whatever pattern language and input that has.

If the command line cannot be followed, the exit status is two, nothing is shown, and nothing is
changed. The same holds if the configuration cannot be loaded, the definitions cannot be applied, or
the expression cannot be read or compiled, and a single message tells which. In particular there is no
directory for harvested files and no file for the results then.

If the exit status is two and something is shown, then it is the whole output: the same command
without a file for its results shows the same and does not fail. Writing the file is what failed, and
the last message says so. So nothing is shown if a page or the input cannot be read. -/
theorem run_failure (machine : Machine (StateM σ)) (readsOnly : machine.files.ReadsOnly)
    (configVariable : Option String) (arguments : List String) (before : σ) :
    (∀ error, CommandLine.parse configVariable arguments = .error (.misuse error) →
      run machine.transcribed configVariable arguments (before, .empty) =
        (2, (before, ⟨"", ["error: " ++ error.message]⟩))) ∧
    ∀ invocation, CommandLine.parse configVariable arguments = .ok invocation →
      (∀ failure, ((invocation.prepare machine).run before).1 = .error failure →
        run machine.transcribed configVariable arguments (before, .empty) =
          (2, (before, ⟨"", ["Error: " ++ failure.message]⟩))) ∧
      ∀ after transcript,
        run machine.transcribed configVariable arguments (before, .empty) =
          (2, (after, transcript)) → transcript.shown ≠ "" →
        ∃ path error status messages content between,
          invocation.output = some path ∧
          transcript.messages = messages ++ ["Error: " ++ (Failure.output path error).message] ∧
          ((invocation.writing none).run machine.transcribed).run (before, .empty) =
            (.ok status, (between, ⟨transcript.shown, messages⟩)) ∧
          machine.files.write path content between = (.error error, after) := by
  constructor
  · intro error misused
    rw [run, misused]
    rfl
  intro invocation read
  constructor
  · intro failure unprepared
    have prepared : (invocation.prepare machine).run before = (.error failure, before) :=
      Prod.ext unprepared (invocation.keeps_prepare readsOnly before)
    have beside := invocation.isBeside_prepare machine before .empty
    rw [prepared] at beside
    exact run_of_error read (Invocation.run_of_prepare_eq_error beside)
  · intro after transcript ended shows
    cases followed : (invocation.run machine.transcribed).run (before, .empty) with
    | mk result last =>
      cases result with
      | ok status =>
        rw [run_of_ok read followed] at ended
        cases status <;> cases (Prod.mk.inj ended).1
      | error failure =>
        rw [run_of_error read followed] at ended
        obtain ⟨-, complained⟩ := Prod.mk.inj ended
        obtain ⟨rfl, rfl⟩ := Prod.mk.inj complained
        obtain ⟨path, error, status, content, between, named, rfl, alone, written⟩ :=
          Invocation.exists_of_run_eq_error followed shows
        exact ⟨path, error, status, _, content, between, named, rfl, alone, written⟩

/-- A machine whose files are a tree and whose patterns are regular expressions. -/
def regexMachine (input : Content) : Machine (StateM Tree) :=
  treeMachine (Engine.worded Regex.CompileError.message Regex.engine) input

/-- A harvest whose expression is not closed, as it is given. -/
def unclosedArguments : List String :=
  ["harvest", "page.html", "-e", "\"a", "-d", "out", "-o", "results.txt"]

/-- A harvest whose expression is not closed, as it is read. -/
def unclosedHarvest : Invocation :=
  ⟨.harvest ["page.html"] "\"a" none "out" none, none, none, [], none, .text, some "results.txt",
    .auto, false⟩

/-- A test whose results go to a directory, as it is given. -/
def unwritableArguments : List String := ["match", "-c", "\"a\"", "ab", "-o", "dir"]

/-- A test whose results go to a directory, as it is read. -/
def unwritableTest : Invocation :=
  ⟨.test "\"a\"" ["ab"] false, some true, none, [], none, .text, some "dir", .auto, false⟩

/-- A tree with an empty page, a directory and nothing else. -/
def pageAndDirectory : Tree := ⟨[(["page.html"], .file []), (["dir"], .directory)], []⟩

/-- Both command lines are read. -/
theorem parse_arguments :
    CommandLine.parse none unclosedArguments = .ok unclosedHarvest ∧
      CommandLine.parse none unwritableArguments = .ok unwritableTest :=
  ⟨eq_ok_of_toOption (by decide +kernel), eq_ok_of_toOption (by decide +kernel)⟩

/-- The expression of the harvest cannot be read. -/
theorem prepare_unclosedHarvest :
    (unclosedHarvest.prepare (regexMachine [])).run pageAndDirectory =
      (.error (.expression "\"a" (.lex (.unterminatedLiteral 0))), pageAndDirectory) := by
  have unclosed : Expression.tokenize "\"a" .empty = .error (.unterminatedLiteral 0) := by cbv
  have unread : Matching.filter ⟨(regexMachine []).engine, .empty, .default⟩ "\"a" =
      .error (.expression "\"a" (.lex (.unterminatedLiteral 0))) := by
    apply Matching.filter_eq_error_of_tokens
    rw [Matching.tokens, unclosed]
    rfl
  have prepared : (unclosedHarvest.prepare (regexMachine [])).run pageAndDirectory =
      ((Matching.filter ⟨(regexMachine []).engine, .empty, .default⟩ "\"a").mapError id,
        pageAndDirectory) := rfl
  rw [prepared, unread]
  rfl

/-- A harvest that cannot be prepared makes no directory and writes no results. A test whose results
cannot be written has shown all of them. -/
theorem run_failure_before_and_after_output :
    let program := run (regexMachine []).transcribed none
    program unclosedArguments (pageAndDirectory, .empty) =
        (2, (pageAndDirectory,
          ⟨"", ["Error: Invalid filter expression: \"a: " ++
            "Unterminated pattern literal starting at offset 0"]⟩)) ∧
      program unwritableArguments (pageAndDirectory, .empty) =
        (2, (pageAndDirectory,
          ⟨"ab\n", ["Error: Failed to write output file 'dir': Is a directory (os error 21)"]⟩)) ∧
      ∃ status messages between,
        ((unwritableTest.writing none).run (regexMachine []).transcribed).run
          (pageAndDirectory, .empty) = (.ok status, (between, ⟨"ab\n", messages⟩)) := by
  intro program
  have failure := run_failure (regexMachine []) Tree.system_readsOnly none
  obtain ⟨-, harvests⟩ := failure unclosedArguments pageAndDirectory
  obtain ⟨-, tests⟩ := failure unwritableArguments pageAndDirectory
  obtain ⟨unprepared, -⟩ := harvests unclosedHarvest parse_arguments.1
  obtain ⟨-, shown⟩ := tests unwritableTest parse_arguments.2
  let told : Transcript :=
    ⟨"ab\n", ["Error: Failed to write output file 'dir': Is a directory (os error 21)"]⟩
  have code : (program unwritableArguments (pageAndDirectory, .empty)).1 = 2 := by decide +kernel
  have left : (program unwritableArguments (pageAndDirectory, .empty)).2 =
      (pageAndDirectory, told) := by
    decide +kernel
  have unwritten : program unwritableArguments (pageAndDirectory, .empty) =
      (2, (pageAndDirectory, told)) := Prod.ext code left
  refine ⟨unprepared _ (congrArg Prod.fst prepare_unclosedHarvest), unwritten, ?_⟩
  obtain ⟨path, error, status, messages, content, between, -, -, alone, -⟩ :=
    shown pageAndDirectory told unwritten (by decide)
  exact ⟨status, messages, between, alone⟩

end LinkSieve.Program
