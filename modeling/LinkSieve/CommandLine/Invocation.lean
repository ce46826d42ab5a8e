import LinkSieve.CommandLine.Scan
/-!
# Reading invocations

A command line names one command. The options that all commands share may stand before that name or
after it, and what stands after it decides. Options that exclude each other do so within a level only.

The path of the configuration file may also come from the environment, which an option overrides.
-/

namespace LinkSieve.CommandLine

open Command

/-- Whether an option was given. -/
def Given.has (given : Given) (name : String) : Bool := given.any fun option => option.1 = name

/-- The value of the first option that has one. -/
def Given.value? {α : Type} (given : Given) (read : Setting → Option α) : Option α :=
  given.findSome? fun option => read option.2

/-- The options of both levels. An option that the inner level gives is not looked for in the outer
one. -/
def Given.merge (outer inner : Given) : Given :=
  outer.filter (fun option => !inner.has option.1) ++ inner

/-- Refuses options that exclude each other, and a path from the environment that is needed here and
cannot be used. -/
def Given.validate (given : Given) (configVariable : Option String) : Except Stop Unit := do
  conflicts.forM fun (name, other) =>
    if given.has name && given.has other then .error (.misuse (.conflicting name other)) else .ok ()
  if configVariable = some "" ∧ !given.has configOption.name then
    throw (.misuse (.invalidValue configOption.name ""))

/-- The expression that accepts every link. -/
def everyLink : String := "\".*\""

/-- The pages among the operands, of which there is one at least. -/
def pages (operands : List String) : Except Stop (List String) :=
  if operands.isEmpty then .error (.misuse (.missingOperand "PAGES"))
  else if operands.contains "" then .error (.misuse (.invalidValue "PAGES" ""))
  else .ok operands

/-- What a command is to do, given the options and the operands behind its name. -/
def Verb.task (verb : Verb) (given : Given) (operands : List String) : Except Stop Task :=
  let expression := (given.value? fun
    | .expression text => some text
    | _ => none).getD everyLink
  let base := given.value? fun
    | .base url => some url
    | _ => none
  match verb, operands with
  | check, [expression] => .ok (.check expression (given.has "tokens"))
  | check, _ :: operand :: _ => .error (.misuse (.unexpectedOperand operand))
  | test, expression :: subjects => .ok (.test expression subjects (given.has "all"))
  | check, [] | test, [] => .error (.misuse (.missingOperand "EXPRESSION"))
  | links, operands => do return .links (← pages operands) expression base
  | harvest, operands => do
    let directory := (given.value? fun
      | .directory path => some path
      | _ => none).getD "."
    let wait := given.value? fun
      | .wait seconds => some seconds
      | _ => none
    return .harvest (← pages operands) expression base directory wait

/-- A task with the settings that the options make. -/
def invocation (given : Given) (configVariable : Option String) (task : Task) : Invocation where
  task
  caseSensitive :=
    if given.has "case-sensitive" then some true
    else if given.has "ignore-case" then some false
    else none
  onInvalidPattern := given.value? fun
    | .onInvalidPattern policy => some policy
    | _ => none
  definitions := given.filterMap fun option =>
    match option.2 with
    | .define definition => some definition
    | _ => none
  config := (given.value? fun
    | .config path => some path
    | _ => none).or configVariable
  format := (given.value? fun
    | .format format => some format
    | _ => none).getD .text
  output := given.value? fun
    | .output path => some path
    | _ => none
  color := (given.value? fun
    | .color mode => some mode
    | _ => none).getD .auto
  quiet := given.has "quiet"

/-- What the word "help" asks for with some words behind it: help on the program, or on a command. -/
def helpOn : (words : List String) → Stop
  | [] => .help
  | word :: rest =>
    if word = "help" ∨ (Verb.ofName? word).isSome then
      match rest with
      | [] => .help
      | other :: _ => .misuse (.unknownCommand other)
    else .misuse (.unknownCommand word)

/-- Reads the arguments, with the path that the environment names. -/
def parse (configVariable : Option String) (arguments : List String) : Except Stop Invocation := do
  let outer ← scan ⟨sharedOptions, true⟩ [] [] arguments
  match outer.rest with
  | [] => throw (.misuse .missingCommand)
  | word :: rest =>
    match Verb.ofName? word with
    | none => throw (if word = "help" then helpOn rest else .misuse (.unknownCommand word))
    | some verb =>
      let inner ← scan ⟨sharedOptions ++ verb.options, false⟩ [] [] rest
      inner.given.validate configVariable
      outer.given.validate configVariable
      let task ← verb.task inner.given inner.operands
      return invocation (outer.given.merge inner.given) configVariable task

/-- How to use the program. -/
def usage : String :=
  "Usage: linksieve [OPTIONS] COMMAND\n\n" ++
  "Commands:\n" ++
  "  check EXPRESSION [--tokens]\n" ++
  "  match EXPRESSION [SUBJECTS]... [-a]\n" ++
  "  links PAGES... [-e EXPRESSION] [-b URL]\n" ++
  "  harvest PAGES... [-e EXPRESSION] [-b URL] [-d DIRECTORY] [-w SECONDS]\n\n" ++
  "Options:\n" ++
  "  -c, --case-sensitive             letters match exactly as written\n" ++
  "  -i, --ignore-case                letters match in any case\n" ++
  "      --on-invalid-pattern POLICY  fail, or never-match\n" ++
  "  -D, --define NAME=PATTERN        name a pattern\n" ++
  "      --config PATH                read this configuration file\n" ++
  "  -F, --format FORMAT              text, or json\n" ++
  "  -o, --output PATH                also write the results to this file\n" ++
  "      --color WHEN                 auto, always, or never\n" ++
  "  -v, --verbose                    tell more\n" ++
  "  -q, --quiet                      tell errors only\n" ++
  "  -h, --help                       show this text\n" ++
  "  -V, --version                    show the version\n"

/-- The version of the program. -/
def version : String := "linksieve 0.1.0\n"

end LinkSieve.CommandLine
