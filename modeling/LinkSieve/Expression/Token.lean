/-!
# Tokens of filter expressions

An expression is a sequence of pattern literals, three operators and parentheses. A token is kept
with the byte range that it was read from, because errors of the parser are reported by position in
the text.
-/

namespace LinkSieve.Expression

/-- The three operators. NOT is a prefix operator, and between two operands it abbreviates
AND NOT. -/
inductive Operator where
  | and
  | or
  | not
  deriving Repr, DecidableEq

/-- The spelling in messages and in the canonical form. Expressions may use any case. -/
def Operator.name : Operator → String
  | and => "AND"
  | or => "OR"
  | not => "NOT"

/-- The operator that a word names, in any ASCII case. -/
def Operator.ofWord? (word : List Char) : Option Operator :=
  let word := word.map Char.toLower
  if word = ['a', 'n', 'd'] then some .and
  else if word = ['o', 'r'] then some .or
  else if word = ['n', 'o', 't'] then some .not
  else none

/-- A lexical unit. -/
inductive Token where
  /-- A pattern text, with the escapes of its literal resolved. -/
  | pattern (text : String)
  | operator (symbol : Operator)
  | opening
  | closing
  deriving Repr, DecidableEq

namespace Token

/-- The kind of a token, without the text of a pattern. -/
def label : Token → String
  | pattern _ => "pattern"
  | operator symbol => symbol.name
  | opening => "'('"
  | closing => "')'"

/-- A token as error messages name it. The text of a pattern is shown as it is, without
escapes. -/
def describe : Token → String
  | pattern text => "pattern \"" ++ text ++ "\""
  | token => token.label

/-- The text of a pattern token. -/
def text? : Token → Option String
  | pattern text => some text
  | _ => none

end Token

/-- A token with the bytes that it was read from: `offset` is the first of them and `stop` the first
after them. -/
structure Spanned where
  token : Token
  offset : Nat
  stop : Nat
  deriving Repr, DecidableEq

end LinkSieve.Expression
