import LinkSieve.Command.Invocation
/-!
# Options

The options of the command line: their names, the letters that stand for some of them, and the values
that they take. An option that takes a value refuses those that it cannot use.
-/

namespace LinkSieve.CommandLine

open Expression Command

/-- An option as it was given, with its value. -/
inductive Setting where
  | caseSensitive
  | ignoreCase
  | onInvalidPattern (policy : InvalidPatternPolicy)
  | define (definition : Definition)
  | config (path : String)
  | format (format : OutputFormat)
  | output (path : String)
  | color (mode : ColorMode)
  | verbose
  | quiet
  | listTokens
  | showAll
  | expression (text : String)
  | base (url : String)
  | directory (path : String)
  | wait (seconds : Nat)
  deriving Repr, DecidableEq

/-- Whether an option takes a value, and what it means. -/
inductive Form where
  | flag (setting : Setting)
  | valued (read : String → Option Setting)

/-- An option that can be given. -/
structure OptionSpec where
  name : String
  letter : Option Char
  form : Form
  /-- Whether it may be given more than once. -/
  repeatable : Bool

/-- Reads one of some words. -/
def choice (words : List (String × Setting)) (text : String) : Option Setting := words.lookup text

/-- Reads a path, which has at least one character. -/
def path (setting : String → Setting) (text : String) : Option Setting :=
  if text.toList.isEmpty then none else some (setting text)

/-- Reads a definition. -/
def definition (text : String) : Option Setting :=
  match Definition.parse text with
  | .ok definition => some (.define definition)
  | .error _ => none

/-- Reads a number of seconds: decimal digits, after a plus sign if there is one, for a number below
2^64. -/
def seconds (text : String) : Option Setting :=
  let digits := match text.toList with
    | '+' :: digits => digits
    | digits => digits
  let value := digits.foldl (fun value c => 10 * value + (c.toNat - '0'.toNat)) 0
  if digits.isEmpty || !digits.all Char.isDigit || value ≥ UInt64.size then none else some (.wait value)

/-- The option that names the configuration file. -/
def configOption : OptionSpec := ⟨"config", none, .valued (path .config), false⟩

/-- The options that every command takes, before its name or after it. -/
def sharedOptions : List OptionSpec := [
  ⟨"case-sensitive", some 'c', .flag .caseSensitive, false⟩,
  ⟨"ignore-case", some 'i', .flag .ignoreCase, false⟩,
  ⟨"on-invalid-pattern", none, .valued (choice
    ([InvalidPatternPolicy.fail, .neverMatch].map fun policy =>
      (policy.name, .onInvalidPattern policy))), false⟩,
  ⟨"define", some 'D', .valued definition, true⟩,
  configOption,
  ⟨"format", some 'F', .valued (choice
    [("text", .format .text), ("json", .format .json)]), false⟩,
  ⟨"output", some 'o', .valued (path .output), false⟩,
  ⟨"color", none, .valued (choice
    [("auto", .color .auto), ("always", .color .always), ("never", .color .never)]), false⟩,
  ⟨"verbose", some 'v', .flag .verbose, true⟩,
  ⟨"quiet", some 'q', .flag .quiet, false⟩]

/-- The pairs of options that exclude each other. -/
def conflicts : List (String × String) := [("case-sensitive", "ignore-case"), ("quiet", "verbose")]

/-- The commands. -/
inductive Verb where
  | check
  | test
  | links
  | harvest
  deriving Repr, DecidableEq

/-- The command with a given name. -/
def Verb.ofName? (name : String) : Option Verb :=
  [("check", check), ("match", test), ("links", links), ("harvest", harvest)].lookup name

/-- The options for the links of pages. -/
def pageOptions : List OptionSpec := [
  ⟨"expression", some 'e', .valued (some ∘ .expression), false⟩,
  ⟨"base", some 'b', .valued (some ∘ .base), false⟩]

/-- The options that a command takes and others do not. -/
def Verb.options : Verb → List OptionSpec
  | check => [⟨"tokens", none, .flag .listTokens, false⟩]
  | test => [⟨"all", some 'a', .flag .showAll, false⟩]
  | links => pageOptions
  | harvest => pageOptions ++ [
    ⟨"dest", some 'd', .valued (path .directory), false⟩,
    ⟨"wait", some 'w', .valued seconds, false⟩]

end LinkSieve.CommandLine
