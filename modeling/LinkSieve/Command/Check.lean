import LinkSieve.Command.Matching
import LinkSieve.Json
import LinkSieve.Terminal.Table
/-!
# Checking an expression

An expression that makes a filter is shown in its canonical form, and with its tokens if they are asked
for.
-/

namespace LinkSieve.Command.Check

open Expression

/-- The tokens with their numbers and their places in the expression. -/
def table (tokens : List Spanned) : Terminal.Table where
  titles := ["#", "Offset", "Token", "Text"]
  rows := tokens.mapIdx fun index spanned =>
    [toString index, toString spanned.offset, spanned.token.label, spanned.token.text?.getD ""]

/-- A token as a document. -/
def tokenDocument (spanned : Spanned) : Json :=
  .object [("token", .str spanned.token.label), ("offset", .num spanned.offset),
    ("text", match spanned.token.text? with
      | some text => .str text
      | none => .null)]

/-- The expression as a line, and its tokens as a table. -/
def text (filter : Filter) (tokens : Option (List Spanned)) : String :=
  filter.render ++ "\n" ++
    match tokens with
    | some tokens => (table tokens).render ++ "\n"
    | none => ""

/-- The expression as a document. -/
def document (filter : Filter) (tokens : Option (List Spanned)) : Json :=
  .object [("check", .object ([
    ("expression", .str filter.render),
    ("patterns", .strings filter.formula.leaves),
    ("disabled_patterns", .strings filter.disabledPatterns),
    ("case_sensitive", .bool filter.options.caseSensitive)] ++
    match tokens with
    | some tokens => [("tokens", .arr (tokens.map tokenDocument))]
    | none => []))]

/-- What there is to tell about an expression. -/
def results (format : OutputFormat) (filter : Filter) (tokens : Option (List Spanned)) : String :=
  match format with
  | .text => text filter tokens
  | .json => (document filter tokens).pretty ++ "\n"

variable {m : Type → Type} [Monad m]

/-- Checks an expression. -/
def run (host : Host m) (invocation : Invocation) (matching : Matching) (expression : String)
    (listTokens : Bool) : ExceptT Failure m Status := do
  let tokens ← settle id (matching.tokens expression)
  let filter ← matching.build host expression
  let listed := if listTokens then some tokens else none
  host.emit invocation.output (results invocation.format filter listed)
  return .found

end LinkSieve.Command.Check
