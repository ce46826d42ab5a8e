import LinkSieve.Command.Host
import LinkSieve.Command.Invocation
/-!
# Settings of a filter

A filter is built from an expression under the settings of an invocation. Where an invocation says
nothing, the configuration holds, and a definition of the invocation replaces one of the configuration.
Nothing here depends on the pattern language.
-/

namespace LinkSieve.Command

open Expression

/-- The options for patterns. -/
def Invocation.options (invocation : Invocation) (config : Config) : MatchOptions where
  caseSensitive := invocation.caseSensitive.getD config.options.caseSensitive
  onInvalidPattern := invocation.onInvalidPattern.getD config.options.onInvalidPattern

/-- Adds definitions to a table, the later ones over the earlier ones. -/
def define (table : PatternTable) (definitions : List Definition) : Except Failure PatternTable :=
  definitions.foldlM (fun table definition =>
    (table.define definition.name definition.pattern).mapError (.definition definition.name)) table

/-- What the patterns of an expression are read and compiled under. -/
structure Matching where
  engine : Engine String
  table : PatternTable
  options : MatchOptions

namespace Matching

/-- The settings of an invocation over those of a configuration. -/
def ofInvocation (engine : Engine String) (invocation : Invocation) (config : Config) :
    Except Failure Matching := do
  return ⟨engine, ← define config.patterns invocation.definitions, invocation.options config⟩

/-- The tokens of an expression. -/
def tokens (matching : Matching) (expression : String) : Except Failure (List Spanned) :=
  (tokenize expression matching.table).mapError fun error => .expression expression (.lex error)

/-- The filter of an expression. -/
def filter (matching : Matching) (expression : String) : Except Failure Filter :=
  (Filter.parse matching.engine expression matching.table matching.options).mapError
    (.expression expression)

end Matching

/-- A warning for each pattern of a filter that no subject passes because it was rejected. -/
def warnings (filter : Filter) : List String :=
  filter.disabledPatterns.map fun pattern =>
    "Warning: pattern \"" ++ pattern ++ "\" is disabled because it does not compile"

variable {m : Type → Type} [Monad m]

/-- The filter of an expression, with warnings if there are any. -/
def Matching.build (matching : Matching) (host : Host m) (expression : String) :
    ExceptT Failure m Filter := do
  let filter ← settle id (matching.filter expression)
  ExceptT.lift ((warnings filter).forM host.complain)
  return filter

end LinkSieve.Command
