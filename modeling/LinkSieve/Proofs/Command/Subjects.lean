import LinkSieve.Command.Run
import LinkSieve.Proofs.Text.Utf8
/-!
# Subjects in the input

Subjects can be given one on a line of the input. White space around a subject and lines with nothing
but white space do not count, wherever they stand. Testing such an input does what testing the subjects
as arguments does.
-/

namespace LinkSieve.Command

open Text

namespace Test

/-- White space that stays on its line. -/
structure Blank (text : List Char) : Prop where
  white : ∀ c ∈ text, Unicode.isWhitespace c = true
  unbroken : '\n' ∉ text

/-- A subject that can stand on a line: it is not empty, it has no line break, and it neither begins
nor ends with white space. -/
structure Bare (subject : List Char) : Prop where
  nonempty : subject ≠ []
  unbroken : '\n' ∉ subject
  first : ∀ c ∈ subject.head?, Unicode.isWhitespace c = false
  last : ∀ c ∈ subject.getLast?, Unicode.isWhitespace c = false

/-- Lines that hold subjects in their order, one on a line, beside white space. -/
inductive Hold : (lines : List (List Char)) → (subjects : List String) → Prop
  | none : Hold [] []
  | blank {line : List Char} {lines : List (List Char)} {subjects : List String} :
    Blank line → Hold lines subjects → Hold (line :: lines) subjects
  | subject {before after : List Char} {subject : String} {lines : List (List Char)}
    {subjects : List String} : Blank before → Bare subject.toList → Blank after →
    Hold lines subjects → Hold ((before ++ (subject.toList ++ after)) :: lines) (subject :: subjects)

/-- The input with the given lines. -/
def inputOf (lines : List (List Char)) : Files.Content :=
  Utf8.encode (['\n'].intercalate lines)

/-- The subjects of two parts of a text are found separately if a line break stands between them. -/
theorem subjectsOf_append (before after : List Char) :
    subjectsOf (before ++ '\n' :: after) = subjectsOf before ++ subjectsOf after := by
  simp only [subjectsOf, splitAt_append_cons, List.map_append, List.filter_append]

/-- The subjects of several lines are those of the first one and those of the others. -/
theorem subjectsOf_intercalate_cons (line : List Char) (lines : List (List Char)) :
    subjectsOf (['\n'].intercalate (line :: lines)) =
      subjectsOf line ++ subjectsOf (['\n'].intercalate lines) := by
  cases lines with
  | nil =>
    have none : subjectsOf (['\n'].intercalate []) = [] := rfl
    rw [List.intercalate_singleton, none, List.append_nil]
  | cons next lines =>
    rw [List.intercalate_cons_cons, List.append_assoc, List.singleton_append, subjectsOf_append]

/-- There is no subject in white space. -/
theorem Blank.subjectsOf {line : List Char} (blank : Blank line) : subjectsOf line = [] := by
  rw [Test.subjectsOf, splitAt_of_not_mem blank.unbroken, List.map_singleton,
    trim_blank blank.white]
  rfl

/-- White space around a subject does not count. -/
theorem Bare.subjectsOf {before after : List Char} {subject : String} (blankBefore : Blank before)
    (bare : Bare subject.toList) (blankAfter : Blank after) :
    subjectsOf (before ++ (subject.toList ++ after)) = [subject] := by
  have unbroken : '\n' ∉ before ++ (subject.toList ++ after) := by
    simp [blankBefore.unbroken, bare.unbroken, blankAfter.unbroken]
  have kept : [subject.toList].filter (fun line => !line.isEmpty) = [subject.toList] := by
    simpa using bare.nonempty
  rw [Test.subjectsOf, splitAt_of_not_mem unbroken, List.map_singleton,
    trim_append blankBefore.white blankAfter.white bare.first bare.last, kept, List.map_singleton,
    String.ofList_toList]

/-- The subjects are those that the lines hold. -/
theorem Hold.subjectsOf {lines : List (List Char)} {subjects : List String}
    (hold : Hold lines subjects) : subjectsOf (['\n'].intercalate lines) = subjects := by
  induction hold with
  | none => rfl
  | blank blank _ inductionHypothesis =>
    rw [subjectsOf_intercalate_cons, blank.subjectsOf, inductionHypothesis, List.nil_append]
  | subject before bare after _ inductionHypothesis =>
    rw [subjectsOf_intercalate_cons, bare.subjectsOf before after, inductionHypothesis,
      List.singleton_append]

section Read

variable {m : Type → Type} [Monad m] {machine : Machine m} {lines : List (List Char)}
  {subjects : List String}

/-- Subjects that are given are not looked for in the input. -/
theorem readSubjects_of_ne_nil (nonempty : subjects ≠ []) :
    readSubjects machine subjects = pure subjects := by
  rw [readSubjects, List.isEmpty_eq_false_iff.mpr nonempty]
  rfl

/-- Without subjects, those of the input are read. -/
theorem readSubjects_of_hold [LawfulMonad m] (hold : Hold lines subjects)
    (given : machine.input = pure (inputOf lines)) : readSubjects machine [] = pure subjects := by
  apply ExceptT.ext
  simp [readSubjects, given, inputOf, Utf8.decode_encode, hold.subjectsOf]

end Read

end Test

/-- The invocation that tests subjects under given settings. -/
def Invocation.testing (settings : Invocation) (expression : String) (subjects : List String)
    (showAll : Bool) : Invocation :=
  { settings with task := .test expression subjects showAll }

/-- The host with a given input. -/
def Host.withInput {m : Type → Type} [Monad m] (host : Host m) (content : Files.Content) : Host m :=
  { host with input := pure content }

section Run

variable {m : Type → Type} [Monad m] [LawfulMonad m] {lines : List (List Char)}
  {subjects : List String}

/-- Subjects may be given as arguments or on the lines of the input. -/
theorem Test.run_withInput (hold : Hold lines subjects) (nonempty : subjects ≠ []) (host : Host m)
    (invocation : Invocation) (matching : Matching) (expression : String) (showAll : Bool) :
    run (host.withInput (inputOf lines)) invocation matching expression [] showAll =
      run host invocation matching expression subjects showAll := by
  rw [run, run, readSubjects_of_hold hold rfl, readSubjects_of_ne_nil nonempty]
  rfl

/-- The whole command does the same either way. -/
theorem Invocation.run_withInput (hold : Test.Hold lines subjects) (nonempty : subjects ≠ [])
    (host : Host m) (settings : Invocation) (expression : String) (showAll : Bool) :
    (settings.testing expression [] showAll).run (host.withInput (Test.inputOf lines)) =
      (settings.testing expression subjects showAll).run host := by
  refine bind_congr fun config => bind_congr fun matching => ?_
  exact Test.run_withInput hold nonempty (host.quieted settings.quiet) _ matching expression showAll

end Run

end LinkSieve.Command
