import LinkSieve.Proofs.Command.Failure
import LinkSieve.Proofs.Command.Subjects
import LinkSieve.Proofs.Files.Local
import LinkSieve.Proofs.Json
/-!
# What a test of subjects tells

A test tells the same story everywhere. The lines on the standard output, the file that they are also
written to, the members of the document and the exit status are all about one list of subjects and the
verdicts of one filter.
-/

namespace LinkSieve.Files

/-- What was written to a file is found in it. -/
def System.KeepsWrites {σ : Type} (system : System (StateM σ)) : Prop :=
  ∀ path content before after, system.write path content before = (.ok (), after) →
    (system.read path after).1 = .ok content

/-- The files of a tree are kept. -/
theorem Tree.system_keepsWrites : Tree.system.KeepsWrites := by
  intro path content before after written
  cases free : before.writable path with
  | error error =>
    have fails : Tree.system.write path content before = (.error error, before) := by
      simp [system, update, Tree.write, free, bind, Except.bind]
    rw [fails] at written
    cases written
  | ok place =>
    have succeeds : Tree.system.write path content before =
        (.ok (), before.set place (.file content)) := by
      simp [system, update, Tree.write, free, bind, Except.bind, pure, Except.pure]
    rw [succeeds] at written
    cases written
    have located := locate_set_of_writable free content
    simp [system, query, Tree.read, located, bind, Except.bind, pure, Except.pure]

end LinkSieve.Files

namespace LinkSieve.Command

open Files Text

namespace Test

variable (filter : Filter) (showAll : Bool) (subjects : List String)

/-- The subjects that are reported: the accepted ones, or all of them. -/
def reported : List String := if showAll then subjects else subjects.filter filter.accepts

/-- The line that reports a subject. It is marked with the verdict if all subjects are reported. -/
def reportLine (subject : String) : String :=
  (if showAll then if filter.accepts subject then "+ " else "- " else "") ++ subject ++ "\n"

/-- A document about subjects under a filter: how many they are, how many of them are accepted, and those
that are reported, in their order and with their verdicts. -/
def Tells (document : Json) : Prop :=
  ∃ told results, document.member? "match" = some told ∧
    told.member? "expression" = some (.str filter.render) ∧
    told.member? "examined" = some (.num subjects.length) ∧
    told.member? "accepted" = some (.num (subjects.filter filter.accepts).length) ∧
    told.member? "results" = some (.arr results) ∧
    results.map (fun result => (result.member? "subject", result.member? "accepted")) =
      (reported filter showAll subjects).map fun subject =>
        (some (.str subject), some (.bool (filter.accepts subject)))

/-- The number of true verdicts is that of the accepted subjects. -/
theorem accepted_verdicts :
    accepted (verdicts filter subjects) = (subjects.filter filter.accepts).length := by
  rw [accepted, verdicts, List.countP_map, List.countP_eq_length_filter]
  rfl

/-- The verdicts that are shown are those of the subjects that are reported. -/
theorem filter_verdicts :
    (verdicts filter subjects).filter (fun verdict => showAll || verdict.2) =
      (reported filter showAll subjects).map fun subject => (subject, filter.accepts subject) := by
  rw [verdicts, List.filter_map, reported]
  cases showAll with
  | true => exact congrArg _ (List.filter_eq_self.mpr fun _ _ => rfl)
  | false => rfl

/-- Without colours there is a line for each subject that is reported. -/
theorem lines_uncolored :
    lines false showAll (verdicts filter subjects) =
      (reported filter showAll subjects).map (reportLine filter showAll) := by
  have line (subject : String) : line? false showAll (subject, filter.accepts subject) =
      if showAll || filter.accepts subject then some (reportLine filter showAll subject)
      else none := by
    cases showAll <;> cases verdict : filter.accepts subject <;>
      simp [line?, styled, reportLine, verdict]
  rw [lines, verdicts, List.filterMap_map, reported]
  induction subjects with
  | nil => cases showAll <;> rfl
  | cons subject subjects inductionHypothesis =>
    rw [List.filterMap_cons, Function.comp_apply, line, inductionHypothesis]
    cases showAll <;> cases verdict : filter.accepts subject <;> simp [verdict]

/-- The document tells about the subjects. -/
theorem tells_document :
    Tells filter showAll subjects (document filter showAll (verdicts filter subjects)) := by
  have distinct : ["expression", "examined", "accepted", "results"].Nodup := by decide
  have members : ["subject", "accepted"].Nodup := by decide
  refine ⟨_, _, Json.member?_object (List.pairwise_singleton _ _) List.mem_cons_self,
    Json.member?_object distinct List.mem_cons_self, ?_, ?_,
    Json.member?_object distinct (by simp; rfl), ?_⟩
  · have counted : (verdicts filter subjects).length = subjects.length := List.length_map _
    rw [← counted]
    exact Json.member?_object distinct (by simp)
  · rw [← accepted_verdicts]
    exact Json.member?_object distinct (by simp)
  · rw [filter_verdicts, List.map_map, List.map_map]
    refine List.map_congr_left fun subject _ => Prod.ext ?_ ?_
    · exact Json.member?_object members (by simp)
    · exact Json.member?_object members (by simp)

/-- The exit status tells whether a subject is accepted. -/
theorem code_ofBool :
    (Status.ofBool (accepted (verdicts filter subjects) > 0)).code =
      if subjects.any filter.accepts then 0 else 1 := by
  have same : accepted (verdicts filter subjects) > 0 ↔ subjects.any filter.accepts = true := by
    rw [accepted, verdicts, List.countP_map, gt_iff_lt, List.countP_pos_iff, List.any_eq_true]
    rfl
  by_cases found : subjects.any filter.accepts = true
  · rw [if_pos found, Status.ofBool, if_pos (decide_eq_true (same.mpr found))]
    rfl
  · rw [if_neg found, Status.ofBool, if_neg (by simpa using fun positive => found (same.mp positive))]
    rfl

/-- Without colours a report is shown as it is written to a file, and in both forms it tells about the
subjects. -/
theorem exists_run_report {σ : Type} (machine : Machine (StateM σ)) (quiet : Bool)
    (invocation : Invocation) (colorless : invocation.color.isActive machine.isTerminal = false)
    (status : Status) (state : σ) (messages : List String) :
    ∃ shown,
      (do
        report (machine.transcribed.quieted quiet) invocation filter showAll
          (verdicts filter subjects)
        return status : ExceptT Failure (StateM (σ × Transcript)) Status).run
          (state, ⟨"", messages⟩) =
        (do
          machine.transcribed.writeOutput invocation.output shown
          return status : ExceptT Failure (StateM (σ × Transcript)) Status).run
            (state, ⟨shown, messages⟩) ∧
      (invocation.format = .text →
        shown = String.join ((reported filter showAll subjects).map (reportLine filter showAll))) ∧
      (invocation.format = .json → ∃ document, Json.read? shown = some document ∧
        Tells filter showAll subjects document) := by
  cases form : invocation.format with
  | text =>
    refine ⟨_, ?_, fun _ => rfl, by simp⟩
    have printed := print_lines machine quiet state
      (lines false showAll (verdicts filter subjects)) ⟨"", messages⟩
    rw [Transcript.print, String.empty_append] at printed
    rw [report, form, show invocation.color.isActive (machine.transcribed.quieted quiet).isTerminal =
      false from colorless, bind_assoc, run_bind_of_ok (run_lift_of_eq printed), lines_uncolored]
    rfl
  | json =>
    refine ⟨_, ?_, by simp, fun _ =>
      ⟨_, Json.read?_pretty _ "\n" (by simp [Json.isSpace]), tells_document filter showAll subjects⟩⟩
    rw [report, form, Host.emit, bind_assoc]
    exact run_bind_of_ok (run_lift_of_eq rfl)

end Test

section Run

variable {σ : Type} {machine : Machine (StateM σ)} {settings : Invocation} {expression : String}
  {subjects tested : List String} {showAll : Bool} {filter : Filter} {before between after : σ}

/-- Once there are a filter and subjects, the verdicts are reported. -/
theorem Invocation.exists_run_testing
    (prepared : ((settings.testing expression subjects showAll).prepare machine).run before =
      (.ok filter, between))
    (read : (Test.readSubjects machine subjects).run between = (.ok tested, after)) :
    ∃ messages,
      ((settings.testing expression subjects showAll).run machine.transcribed).run
          (before, .empty) =
        (do
          Test.report (machine.transcribed.quieted settings.quiet)
            (settings.testing expression subjects showAll) filter showAll
            (Test.verdicts filter tested)
          return .ofBool (Test.accepted (Test.verdicts filter tested) > 0) :
            ExceptT Failure (StateM (σ × Transcript)) Status).run (after, ⟨"", messages⟩) := by
  have beside := (settings.testing expression subjects showAll).isBeside_prepare machine before .empty
  rw [prepared] at beside
  obtain ⟨config, matching, compiled, run⟩ := Invocation.exists_run_of_prepare_eq_ok beside
  obtain ⟨messages, built⟩ :=
    matching.exists_run_build machine settings.quiet between compiled .empty
  have taken := IsBeside.readSubjects machine subjects between ⟨"", messages⟩
  rw [read] at taken
  exact ⟨messages, run.trans ((run_bind_of_ok built).trans (run_bind_of_ok taken))⟩

end Run

/-- A test tells the same story everywhere. It is run under any settings, on any machine and from any
state, and it gets a filter and subjects to test, from wherever these are read.

Without colours, the standard output in text form has a line for each accepted subject, or for every
subject with its verdict before it, in the order of the subjects. A document can be read back from the
output in the other form, and it tells how many subjects there are, how many of them are accepted, and
the verdicts of the same subjects in the same order. If there is a file for the results, it gets the
bytes of the standard output. The exit status is zero if a subject is accepted and one otherwise, in
both forms. All this can fail in a single way, which is that the file cannot be written.

Subjects that can stand on lines may also be given on the lines of the input, among blank lines and with
white space around them. That changes nothing. -/
theorem test_agrees {σ : Type} (machine : Machine (StateM σ)) (settings : Invocation)
    (expression : String) (showAll : Bool) (before : σ) :
    (∀ subjects filter between tested after,
      settings.color.isActive machine.isTerminal = false →
      ((settings.testing expression subjects showAll).prepare machine).run before =
        (.ok filter, between) →
      (Test.readSubjects machine subjects).run between = (.ok tested, after) →
      ∃ result final shown messages,
        ((settings.testing expression subjects showAll).run machine.transcribed).run
          (before, .empty) = (result, (final, ⟨shown, messages⟩)) ∧
        (settings.format = .text →
          shown = String.join
            ((Test.reported filter showAll tested).map (Test.reportLine filter showAll))) ∧
        (settings.format = .json →
          ∃ document, Json.read? shown = some document ∧
            Test.Tells filter showAll tested document) ∧
        ((result.map Status.code = .ok (if tested.any filter.accepts then 0 else 1) ∧
            ∀ path, settings.output = some path →
              machine.files.write path (Utf8.encode shown.toList) after = (.ok (), final) ∧
              (machine.files.KeepsWrites →
                (machine.files.read path final).1 = .ok (Utf8.encode shown.toList))) ∨
          ∃ path error, settings.output = some path ∧
            machine.files.write path (Utf8.encode shown.toList) after = (.error error, final) ∧
            result = .error (.output path error))) ∧
    ∀ lines subjects, Test.Hold lines subjects → subjects ≠ [] →
      (settings.testing expression [] showAll).run
          (machine.transcribed.withInput (Test.inputOf lines)) =
        (settings.testing expression subjects showAll).run machine.transcribed := by
  constructor
  · intro subjects filter between tested after colorless prepared read
    obtain ⟨messages, run⟩ := Invocation.exists_run_testing prepared read
    generalize status : Status.ofBool (Test.accepted (Test.verdicts filter tested) > 0) = verdict
      at run
    have code : verdict.code = if tested.any filter.accepts then 0 else 1 := by
      rw [← status]
      exact Test.code_ofBool filter tested
    obtain ⟨shown, reports, text, document⟩ :=
      Test.exists_run_report filter showAll tested machine settings.quiet
        (settings.testing expression subjects showAll) colorless verdict after messages
    have reached := run.trans reports
    rcases run_writeOutput_cases machine settings.output shown verdict after ⟨shown, messages⟩ with
      ⟨final, written, ended⟩ | ⟨path, error, final, named, fails, ended⟩
    · refine ⟨_, final, shown, messages, reached.trans ended, text, document, Or.inl ⟨?_, ?_⟩⟩
      · exact congrArg Except.ok code
      · intro path named
        exact ⟨written path named, fun keeps => keeps path _ after final (written path named)⟩
    · exact ⟨_, final, shown, messages, reached.trans ended, text, document,
        Or.inr ⟨path, error, named, fails, rfl⟩⟩
  · intro lines subjects hold nonempty
    exact Invocation.run_withInput hold nonempty machine.transcribed settings expression showAll

/-- Settings with a file for the results, under which case counts. -/
def fileSettings : Invocation :=
  ⟨.check "" false, some true, none, [], none, .text, some "out.txt", .auto, false⟩

/-- The test of two subjects can be begun. -/
theorem exists_prepare_fileSettings : ∃ filter between,
    ((fileSettings.testing "\"a\"" ["ab", "b"] true).prepare (Program.regexMachine [])).run
      ⟨[], []⟩ = (.ok filter, between) := by
  have found : (((fileSettings.testing "\"a\"" ["ab", "b"] true).prepare
      (Program.regexMachine [])).run ⟨[], []⟩).1.toOption.isSome = true := by decide +kernel
  cases prepared : ((fileSettings.testing "\"a\"" ["ab", "b"] true).prepare
      (Program.regexMachine [])).run ⟨[], []⟩ with
  | mk result between =>
    cases result with
    | ok filter => exact ⟨filter, between, rfl⟩
    | error failure =>
      rw [prepared] at found
      cases found

/-- Two subjects as arguments, and the same ones on three lines, one of which is blank. The file gets
what is shown. -/
theorem test_agrees_two_subjects :
    let machine := Program.regexMachine []
    let run := ((fileSettings.testing "\"a\"" ["ab", "b"] true).run machine.transcribed).run
      (⟨[], []⟩, .empty)
    fileSettings.color.isActive machine.isTerminal = false ∧
      run.1.map Status.code = .ok 0 ∧ run.2.2.shown = "+ ab\n- b\n" ∧
      run.2.1.read "out.txt" = .ok (Utf8.encode "+ ab\n- b\n".toList) ∧
      (fileSettings.testing "\"a\"" [] true).run
          (machine.transcribed.withInput
            (Test.inputOf [" ab\t".toList, " ".toList, "b".toList])) =
        (fileSettings.testing "\"a\"" ["ab", "b"] true).run machine.transcribed := by
  intro machine run
  have shown : run.2.2.shown = "+ ab\n- b\n" := by decide +kernel
  have code : (run.1.map Status.code).toOption = some 0 := by decide +kernel
  obtain ⟨told, same⟩ := test_agrees machine fileSettings "\"a\"" true ⟨[], []⟩
  obtain ⟨filter, between, prepared⟩ := exists_prepare_fileSettings
  refine ⟨rfl, eq_ok_of_toOption code, shown, ?_, same _ _ ?_ (by decide)⟩
  · obtain ⟨result, final, output, messages, ended, -, -, status⟩ :=
      told ["ab", "b"] filter between ["ab", "b"] between rfl prepared rfl
    have finished : run = (result, (final, ⟨output, messages⟩)) := ended
    rw [finished] at shown code ⊢
    rcases status with ⟨-, written⟩ | ⟨path, error, -, -, rfl⟩
    · rw [← shown]
      exact (written "out.txt" rfl).2 Tree.system_keepsWrites
    · cases code
  · have nothing : Test.Blank [] := ⟨List.forall_mem_nil _, List.not_mem_nil⟩
    have space : Test.Blank [' '] := ⟨List.forall_mem_singleton.mpr (by decide +kernel), by decide⟩
    have tab : Test.Blank ['\t'] := ⟨List.forall_mem_singleton.mpr (by decide +kernel), by decide⟩
    have first : Test.Bare "ab".toList := by
      refine ⟨by decide, by decide, ?_, ?_⟩ <;> rintro c ⟨⟩ <;> decide +kernel
    have second : Test.Bare "b".toList := by
      refine ⟨by decide, by decide, ?_, ?_⟩ <;> rintro c ⟨⟩ <;> decide +kernel
    exact .subject space first tab (.blank space (.subject nothing second nothing .none))

end LinkSieve.Command
