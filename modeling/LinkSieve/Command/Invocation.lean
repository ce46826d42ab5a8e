import LinkSieve.Matcher
import LinkSieve.Expression.Definition
/-!
# Invocations

What the program is asked to do: one of four commands, with settings that all of them share. A setting
that is not given is left to the configuration or has a default.
-/

namespace LinkSieve.Command

open Expression

/-- The form of the results. -/
inductive OutputFormat where
  | text
  | json
  deriving Repr, DecidableEq

/-- When results are coloured. -/
inductive ColorMode where
  /-- If they go to a terminal. -/
  | auto
  | always
  | never
  deriving Repr, DecidableEq

/-- Whether results are coloured that may go to a terminal. -/
def ColorMode.isActive (mode : ColorMode) (terminal : Bool) : Bool :=
  match mode with
  | auto => terminal
  | always => true
  | never => false

/-- What to do. -/
inductive Task where
  /-- Show an expression in its canonical form, and its tokens if they are asked for. -/
  | check (expression : String) (listTokens : Bool)
  /-- Test subjects, and show all of them or those that are accepted. Without subjects they are read
  from the input. -/
  | test (expression : String) (subjects : List String) (showAll : Bool)
  /-- List the accepted links of pages. -/
  | links (pages : List String) (expression : String) (base : Option String)
  /-- Copy what the accepted links of pages lead to into a directory. -/
  | harvest (pages : List String) (expression : String) (base : Option String)
      (directory : String) (wait : Option Nat)
  deriving Repr, DecidableEq

/-- A task with the settings for it. -/
structure Invocation where
  task : Task
  /-- Whether case counts, if that is said. -/
  caseSensitive : Option Bool
  onInvalidPattern : Option InvalidPatternPolicy
  definitions : List Definition
  /-- The path of the configuration file. -/
  config : Option String
  format : OutputFormat
  /-- The path of a file that the results are also written to. -/
  output : Option String
  color : ColorMode
  /-- Whether warnings are left out. -/
  quiet : Bool
  deriving Repr, DecidableEq

end LinkSieve.Command
