import LinkSieve.Command.Run
import LinkSieve.Command.Transcript
import LinkSieve.Proofs.Steps
/-!
# Steps of commands

A step of a command is pure, or the machine performs it. On a machine with a transcript for a console,
a step of the machine does to the state what it does without a console, and leaves the transcript alone.
-/

namespace LinkSieve.Files

variable {σ : Type} {system : System (StateM σ)}

/-- Reading a file changes nothing. -/
def System.ReadsOnly (system : System (StateM σ)) : Prop := ∀ path, Keeps id (system.read path)

/-- A tree is read without a change. -/
theorem Tree.system_readsOnly : Tree.system.ReadsOnly := fun _ _ => rfl

/-- Reading the text of a file changes nothing. -/
theorem System.ReadsOnly.readText (readsOnly : system.ReadsOnly) (path : String) :
    Keeps id (system.readText path) := by
  refine (readsOnly path).bind fun result => ?_
  cases result with
  | error error => exact .pure _
  | ok content =>
    dsimp only
    cases Text.Utf8.decode content <;> exact .pure _

end LinkSieve.Files

namespace LinkSieve.Command

open Files

variable {σ α β : Type}

section Steps

variable {τ : Type} {part : σ → τ} {before after : σ} {failure : Failure}

/-- A pure step has its result. -/
theorem run_settle_of_eq {result known : Except Failure α} (same : result = known) :
    (settle (m := StateM σ) id result).run before = (known, before) := by
  rw [same]
  cases known <;> rfl

/-- A pure step fails where its result is an error. -/
theorem eq_error_of_run_settle {result : Except Failure α}
    (fails : (settle (m := StateM σ) id result).run before = (.error failure, after)) :
    result = .error failure ∧ after = before := by
  cases result with
  | error cause =>
    obtain ⟨same, rfl⟩ := Prod.mk.inj fails
    exact ⟨same, rfl⟩
  | ok value => cases (Prod.mk.inj fails).1

/-- A pure step succeeds where its result is a value. -/
theorem eq_ok_of_run_settle {result : Except Failure α} {value : α}
    (succeeds : (settle (m := StateM σ) id result).run before = (.ok value, after)) :
    result = .ok value ∧ after = before := by
  cases result with
  | error cause => cases (Prod.mk.inj succeeds).1
  | ok found =>
    obtain ⟨same, rfl⟩ := Prod.mk.inj succeeds
    exact ⟨same, rfl⟩

/-- A pure step changes nothing. -/
theorem keeps_settle {ε : Type} (wrap : ε → Failure) (result : Except ε α) :
    Keeps part (settle (m := StateM σ) wrap result).run := .pure _

/-- A step that the machine performs changes as much as what the machine does. -/
theorem keeps_perform {ε : Type} (wrap : ε → Failure) {action : StateM σ (Except ε α)}
    (keeps : Keeps part action) : Keeps part (perform wrap action).run :=
  keeps.bind fun _ => .pure _

end Steps

/-! ## Steps beside a console -/

/-- A program does what another one does, and leaves the console alone that it has beside it. -/
def IsBeside (beside : StateM (σ × Transcript) α) (program : StateM σ α) : Prop :=
  ∀ state transcript,
    beside (state, transcript) = ((program state).1, ((program state).2, transcript))

namespace IsBeside

variable {beside : StateM (σ × Transcript) α} {program : StateM σ α}

/-- What a machine does is done beside the console. -/
theorem of (program : StateM σ α) : IsBeside (besideConsole program) program := fun _ _ => rfl

/-- Where nothing is done, the console is left alone. -/
theorem pure (value : α) : IsBeside (σ := σ) (Pure.pure value) (Pure.pure value) := fun _ _ => rfl

/-- Steps beside a console are one program beside it. -/
theorem bind {besideNext : α → StateM (σ × Transcript) β} {next : α → StateM σ β}
    (first : IsBeside beside program) (second : ∀ value, IsBeside (besideNext value) (next value)) :
    IsBeside (beside >>= besideNext) (program >>= next) := by
  intro state transcript
  rw [bind_apply_of_eq (first state transcript)]
  exact second _ _ _

/-- The same for steps that can fail. -/
theorem run_bind {beside : ExceptT Failure (StateM (σ × Transcript)) α}
    {program : ExceptT Failure (StateM σ) α}
    {besideNext : α → ExceptT Failure (StateM (σ × Transcript)) β}
    {next : α → ExceptT Failure (StateM σ) β} (first : IsBeside beside.run program.run)
    (second : ∀ value, IsBeside (besideNext value).run (next value).run) :
    IsBeside (beside >>= besideNext).run (program >>= next).run := by
  rw [ExceptT.run_bind, ExceptT.run_bind]
  refine first.bind fun result => ?_
  cases result with
  | error failure => exact .pure _
  | ok value => exact second value

/-- A pure step is one beside the console. -/
theorem settle {ε : Type} (wrap : ε → Failure) (result : Except ε α) :
    IsBeside (σ := σ) (settle wrap result).run (settle wrap result).run := .pure _

/-- A step that the machine performs is one beside the console. -/
theorem perform {ε : Type} (wrap : ε → Failure)
    {beside : StateM (σ × Transcript) (Except ε α)} {action : StateM σ (Except ε α)}
    (isBeside : IsBeside beside action) :
    IsBeside (perform wrap beside).run (perform wrap action).run :=
  isBeside.bind fun _ => .pure _

/-- A program beside the console shows nothing. -/
theorem keeps (isBeside : IsBeside beside program) : Keeps (·.2.shown) beside := by
  rintro ⟨state, transcript⟩
  exact congrArg (·.2.2.shown) (isBeside state transcript)

/-- The text of a file is read beside the console. -/
theorem readText (files : System (StateM σ)) (path : String) :
    IsBeside ((files.lift besideConsole).readText path) (files.readText path) := by
  refine (of (files.read path)).bind fun result => ?_
  cases result with
  | error error => exact .pure _
  | ok content =>
    dsimp only
    cases Text.Utf8.decode content <;> exact .pure _

/-- A configuration is loaded beside the console. -/
theorem load (files : System (StateM σ)) (path : Option String) :
    IsBeside (Config.load (files.lift besideConsole) path) (Config.load files path) := by
  cases path with
  | none => exact .pure _
  | some path =>
    refine (readText files path).bind fun result => ?_
    cases result <;> exact .pure _

/-- Files are compared beside the console. -/
theorem sameFile (files : System (StateM σ)) (path other : String) :
    IsBeside ((files.lift besideConsole).sameFile? path other) (files.sameFile? path other) := by
  refine (of (files.resolve path)).bind fun first => (of (files.resolve other)).bind fun second => ?_
  cases first with
  | error error => exact .pure _
  | ok place => cases second <;> exact .pure _

/-- Files are fetched beside the console. -/
theorem fetch (files : System (StateM σ)) (url destination : String) :
    IsBeside ((files.lift besideConsole).fetch url destination) (files.fetch url destination) := by
  unfold System.fetch
  cases localPath url.toList with
  | error reason => exact .pure _
  | ok path =>
    refine (sameFile files path destination).bind fun together => ?_
    cases together with
    | some absolute =>
      refine (of (files.size absolute)).bind fun result => ?_
      cases result <;> exact .pure _
    | none =>
      refine (of (files.copy path destination)).bind fun result => ?_
      cases result <;> exact .pure _

/-- Subjects are read beside the console. -/
theorem readSubjects (machine : Machine (StateM σ)) (subjects : List String) :
    IsBeside (Test.readSubjects machine.transcribed.toMachine subjects).run
      (Test.readSubjects machine subjects).run := by
  cases subjects with
  | cons subject subjects => exact .pure _
  | nil =>
    refine run_bind ((of machine.input).bind fun _ => .pure _) fun content => ?_
    cases Text.Utf8.decode content <;> exact .pure _

end IsBeside

/-- The filter that is built is that of the expression. -/
theorem Matching.filter_of_run_build {host : Host (StateM σ)} (matching : Matching)
    {expression : String} {filter : Filter} {before after : σ}
    (built : (matching.build host expression).run before = (.ok filter, after)) :
    matching.filter expression = .ok filter := by
  obtain ⟨compiled, between, settled, warned⟩ := exists_of_run_bind_eq_ok built
  obtain ⟨⟨⟩, _, -, finished⟩ := exists_of_run_bind_eq_ok warned
  obtain ⟨same, -⟩ := Prod.mk.inj finished
  rw [← Except.ok.inj same]
  exact (eq_ok_of_run_settle settled).1

section Console

variable (machine : Machine (StateM σ)) (quiet : Bool) (state : σ)

/-- Lines on the standard error leave everything else alone. -/
theorem exists_complain_lines (lines messages : List String) (shown : String) :
    ∃ more, lines.forM (machine.transcribed.quieted quiet).complain (state, ⟨shown, messages⟩) =
      ((), (state, ⟨shown, more⟩)) := by
  induction lines generalizing messages with
  | nil => exact ⟨messages, rfl⟩
  | cons line lines inductionHypothesis =>
    have step : ∃ one, (machine.transcribed.quieted quiet).complain line
        (state, ⟨shown, messages⟩) = ((), (state, ⟨shown, one⟩)) := by
      cases quiet with
      | true => exact ⟨_, rfl⟩
      | false => exact ⟨_, rfl⟩
    obtain ⟨one, complained⟩ := step
    obtain ⟨more, others⟩ := inductionHypothesis one
    exact ⟨more, (bind_apply_of_eq complained).trans others⟩

/-- Lines on the standard output appear one after the other. -/
theorem print_lines (lines : List String) (transcript : Transcript) :
    lines.forM (machine.transcribed.quieted quiet).print (state, transcript) =
      ((), (state, transcript.print (String.join lines))) := by
  induction lines generalizing transcript with
  | nil =>
    have same : transcript.print "" = transcript := by
      rw [Transcript.print, String.append_empty]
    exact congrArg (fun console => ((), (state, console))) same.symm
  | cons line lines inductionHypothesis =>
    have printed : (machine.transcribed.quieted quiet).print line (state, transcript) =
        ((), (state, transcript.print line)) := rfl
    refine (bind_apply_of_eq printed).trans ((inductionHypothesis _).trans ?_)
    simp [Transcript.print, String.append_assoc]

variable {matching : Matching} {expression : String} {filter : Filter}

/-- A filter is built beside the standard output. -/
theorem Matching.exists_run_build (built : matching.filter expression = .ok filter)
    (transcript : Transcript) :
    ∃ messages, (matching.build (machine.transcribed.quieted quiet) expression).run
        (state, transcript) = (.ok filter, (state, ⟨transcript.shown, messages⟩)) := by
  obtain ⟨messages, complained⟩ := exists_complain_lines machine quiet state (warnings filter)
    transcript.messages transcript.shown
  refine ⟨messages, (run_bind_of_ok (run_settle_of_eq built)).trans ?_⟩
  exact run_bind_of_ok (run_lift_of_eq complained)

end Console

end LinkSieve.Command
