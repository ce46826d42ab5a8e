import LinkSieve.Command.Matching
import LinkSieve.Json
import LinkSieve.Terminal.Style
import LinkSieve.Text.Trim
/-!
# Testing subjects

Each subject gets the verdict of a filter. Accepted subjects are shown, or all of them with marks for
their verdicts. Subjects that are not given as arguments are the lines of the input, without white
space around them and without the lines that hold nothing else.
-/

namespace LinkSieve.Command.Test

/-- A subject and whether it is accepted. -/
abbrev Verdict := String × Bool

/-- The verdicts of a filter. -/
def verdicts (filter : Filter) (subjects : List String) : List Verdict :=
  subjects.map fun subject => (subject, filter.accepts subject)

/-- The subjects in the lines of a text. -/
def subjectsOf (text : List Char) : List String :=
  (((Text.splitAt '\n' text).map Text.trim).filter fun line => !line.isEmpty).map String.ofList

/-- A text in a style, or as it is without colours. -/
def styled (colored : Bool) (style : Terminal.Style) (text : String) : String :=
  if colored then style.apply text else text

/-- The line of a verdict, if it is to be shown. -/
def line? (colored showAll : Bool) (verdict : Verdict) : Option String :=
  match showAll, verdict with
  | false, (subject, true) => some (subject ++ "\n")
  | false, (_, false) => none
  | true, (subject, true) => some (styled colored .good "+" ++ " " ++ subject ++ "\n")
  | true, (subject, false) =>
    some (styled colored .bad "-" ++ " " ++ styled colored .faint subject ++ "\n")

/-- The lines of verdicts. -/
def lines (colored showAll : Bool) (verdicts : List Verdict) : List String :=
  verdicts.filterMap (line? colored showAll)

/-- The number of accepted subjects. -/
def accepted (verdicts : List Verdict) : Nat := verdicts.countP fun verdict => verdict.2

/-- A verdict as a document. -/
def verdictDocument (verdict : Verdict) : Json :=
  .object [("subject", .str verdict.1), ("accepted", .bool verdict.2)]

/-- The verdicts as a document. -/
def document (filter : Filter) (showAll : Bool) (verdicts : List Verdict) : Json :=
  .object [("match", .object [
    ("expression", .str filter.render),
    ("examined", .num verdicts.length),
    ("accepted", .num (accepted verdicts)),
    ("results", .arr ((verdicts.filter fun verdict => showAll || verdict.2).map
      verdictDocument))])]

variable {m : Type → Type} [Monad m]

/-- The subjects that are given, or else those of the input. -/
def readSubjects (machine : Machine m) (subjects : List String) :
    ExceptT Failure m (List String) :=
  if subjects.isEmpty then do
    let content ← ExceptT.lift machine.input
    match Text.Utf8.decode content with
    | .ok text => return subjectsOf text
    | .error _ => throw (.input .notText)
  else return subjects

/-- Shows verdicts, line by line or as a document. They are written to a file without colours. -/
def report (host : Host m) (invocation : Invocation) (filter : Filter) (showAll : Bool)
    (verdicts : List Verdict) : ExceptT Failure m Unit :=
  match invocation.format with
  | .text => do
    let colored := invocation.color.isActive host.isTerminal
    ExceptT.lift ((lines colored showAll verdicts).forM host.print)
    host.writeOutput invocation.output (String.join (lines false showAll verdicts))
  | .json =>
    host.emit invocation.output ((document filter showAll verdicts).pretty ++ "\n")

/-- Tests subjects. -/
def run (host : Host m) (invocation : Invocation) (matching : Matching) (expression : String)
    (subjects : List String) (showAll : Bool) : ExceptT Failure m Status := do
  let filter ← matching.build host expression
  let subjects ← readSubjects host.toMachine subjects
  let verdicts := verdicts filter subjects
  report host invocation filter showAll verdicts
  return .ofBool (accepted verdicts > 0)

end LinkSieve.Command.Test
