import LinkSieve.Matcher
import LinkSieve.Expression.Lexer
import LinkSieve.Expression.Parser
/-!
# Filters

A filter is an expression with all its patterns compiled under the same options. It accepts a subject
if the expression is true of it, where a pattern is true of the subjects that its matcher accepts.
-/

namespace LinkSieve

open Expression

/-- An expression with its compiled patterns. -/
structure Filter where
  formula : Formula String
  matchers : Formula Matcher
  options : MatchOptions

/-- Why the text of an expression makes no filter. -/
inductive FilterError (ε : Type) where
  | lex (error : LexError)
  | parse (error : ParseError)
  | invalidPattern (error : InvalidPattern ε)
  deriving Repr

/-- The wording of the error, given that of the engine's reasons. -/
def FilterError.message {ε : Type} (describe : ε → String) : FilterError ε → String
  | lex error => error.message
  | parse error => error.message
  | invalidPattern error => error.message describe

namespace Filter

variable {ε : Type}

/-- Compiles the patterns of an expression from left to right. -/
def compile (engine : Engine ε) (formula : Formula String) (options : MatchOptions) :
    Except (InvalidPattern ε) Filter := do
  return ⟨formula, ← formula.traverse (Matcher.compile engine options), options⟩

/-- Reads an expression, in which the names of `table` stand for its patterns, and compiles it. -/
def parse (engine : Engine ε) (expression : String) (table : PatternTable)
    (options : MatchOptions) : Except (FilterError ε) Filter := do
  let tokens ← (tokenize expression table).mapError .lex
  let formula ← (Expression.parse tokens).mapError .parse
  (compile engine formula options).mapError .invalidPattern

/-- Whether a subject is accepted. -/
def accepts (filter : Filter) (subject : String) : Bool :=
  filter.matchers.eval fun matcher => matcher.accepts subject

/-- The rejected patterns, from left to right and with repetitions. -/
def disabledPatterns (filter : Filter) : List String :=
  (filter.matchers.leaves.filter fun matcher => !matcher.isCompiled).map Matcher.source

/-- The expression in its canonical form. -/
def render (filter : Filter) : String := filter.formula.render

end Filter

end LinkSieve
