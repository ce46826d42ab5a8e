import LinkSieve.Text.Trim
import LinkSieve.Expression.PatternTable
/-!
# Definitions

A definition is written `NAME=PATTERN`. White space around the name is dropped. The pattern is
everything after the first equals sign, which may hold further ones.
-/

namespace LinkSieve.Expression

/-- A name with the pattern that it stands for. -/
structure Definition where
  name : String
  pattern : String
  deriving Repr, DecidableEq

/-- Reads a definition, and refuses what no table would take. -/
def Definition.parse (text : String) : Except DefinitionError Definition :=
  match text.toList.span (· ≠ '=') with
  | (_, []) => .error (.missingSeparator text)
  | (name, _ :: pattern) => do
    let definition : Definition := ⟨String.ofList (Text.trim name), String.ofList pattern⟩
    validateEntry definition.name definition.pattern
    return definition

end LinkSieve.Expression
