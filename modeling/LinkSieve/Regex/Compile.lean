import LinkSieve.Regex.Parser
import LinkSieve.Regex.Meaning
import LinkSieve.Regex.Size
import LinkSieve.Regex.Search
import LinkSieve.Matcher
/-!
# Compiling patterns

A pattern is compiled for one way of treating case. It is refused if it is malformed, if it asks for
what is not offered, or if its automaton would be too large. A compiled pattern matches a text if it
matches somewhere in it.
-/

namespace LinkSieve.Regex

/-- Why a pattern is refused. -/
inductive CompileError where
  | malformed
  | tooLarge
  deriving Repr, DecidableEq

/-- The wording of a refusal. -/
def CompileError.message : CompileError → String
  | malformed => "regex parse error: the pattern is malformed"
  | tooLarge => "Compiled regex exceeds size limit of " ++ toString sizeLimit ++ " bytes."

/-- Compiles a pattern. -/
def compile (source : String) (caseSensitive : Bool) : Except CompileError Expr :=
  match Tree.parse? source.toList with
  | none => .error .malformed
  | some tree =>
    match tree.resolve (.initial caseSensitive) with
    | none => .error .malformed
    | some (expr, _) => if expr.size ≤ sizeLimit then .ok expr else .error .tooLarge

/-- Regular expressions as a pattern language. -/
def engine : Engine CompileError := fun source caseSensitive => do
  let expr ← compile source caseSensitive
  return fun subject => expr.occursIn subject.toList

end LinkSieve.Regex
