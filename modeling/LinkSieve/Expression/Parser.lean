import LinkSieve.Expression.Formula
import LinkSieve.Expression.Token
/-!
# From tokens to a formula

Precedence, loosest first: OR, then AND together with NOT between two operands, then NOT before an
operand. OR, AND and the NOT between operands group to the left. `a NOT b` reads as `a AND NOT b`.

    expression  = conjunction { OR conjunction }
    conjunction = negation { ( AND | NOT ) negation }
    negation    = NOT negation | primary
    primary     = pattern | '(' expression ')'

The tokens are read once, from left to right. The reader keeps, for each open parenthesis, the
operators that still wait for their right operand; there are at most three kinds of these on one
level, because an operator closes every waiting one that binds at least as tightly. The reader is
either `wanting` an operand or `holding` one.

Two limits keep formulas small enough to be walked by recursion: no formula is deeper than
`maxDepth`, and no more than `maxDepth` parentheses and prefix NOTs are open at once. A violation is
reported at the token that opens, or the operator that would add, the level too many. The reader takes
the limit as a parameter, since what it builds does not depend on it.
-/

namespace LinkSieve.Expression

/-- The greatest depth of a formula, and the greatest number of parentheses and prefix NOTs that may
be open at one token. -/
def maxDepth : Nat := 256

/-- What would have been right in place of an unexpected token or end. -/
inductive Expectation where
  | operand
  | operatorOrClosing
  | operatorOrEnd
  deriving Repr, DecidableEq

/-- The wording of an expectation. -/
def Expectation.message : Expectation → String
  | operand => "a pattern or '('"
  | operatorOrClosing => "an operator or ')'"
  | operatorOrEnd => "an operator or end of expression"

/-- Why a token sequence is not an expression. -/
inductive ParseReason where
  | emptyExpression
  | unexpectedToken (found : Token) (expected : Expectation)
  | unexpectedEnd (expected : Expectation)
  | missingOperand (operator : Operator)
  | unclosedParenthesis
  | unmatchedParenthesis
  | emptyPattern
  | tooDeep
  deriving Repr, DecidableEq

/-- The wording of a reason. -/
def ParseReason.message : ParseReason → String
  | emptyExpression => "empty expression"
  | unexpectedToken found expected =>
    "unexpected " ++ found.describe ++ ", expected " ++ expected.message
  | unexpectedEnd expected => "unexpected end of expression, expected " ++ expected.message
  | missingOperand operator => "operator " ++ operator.name ++ " is missing an operand"
  | unclosedParenthesis => "'(' is never closed"
  | unmatchedParenthesis => "')' has no matching '('"
  | emptyPattern => "pattern literal is empty"
  | tooDeep => "expression nests deeper than " ++ toString maxDepth ++ " levels"

/-- A reason with the byte position it is blamed on. -/
structure ParseError where
  position : Nat
  reason : ParseReason
  deriving Repr, DecidableEq

/-- The wording of a parse error. -/
def ParseError.message (error : ParseError) : String :=
  "Invalid expression at offset " ++ toString error.position ++ ": " ++ error.reason.message

/-- A formula together with its depth, so that the limit is checked without walking the formula. -/
structure Operand where
  formula : Formula String
  depth : Nat
  depth_eq : depth = formula.depth

namespace Operand

/-- A single pattern. -/
def pattern (text : String) : Operand := ⟨.leaf text, 1, rfl⟩

/-- The negation of an operand. -/
def not (operand : Operand) : Operand :=
  ⟨.not operand.formula, operand.depth + 1, by rw [operand.depth_eq]; rfl⟩

/-- The conjunction of two operands. -/
def and (left right : Operand) : Operand :=
  ⟨.and left.formula right.formula, max left.depth right.depth + 1, by
    rw [left.depth_eq, right.depth_eq]; rfl⟩

/-- The disjunction of two operands. -/
def or (left right : Operand) : Operand :=
  ⟨.or left.formula right.formula, max left.depth right.depth + 1, by
    rw [left.depth_eq, right.depth_eq]; rfl⟩

/-- Lets an operand pass if it is within the depth limit, and otherwise blames the operator at byte
`position`, which formed it. -/
def within (limit : Nat) (operand : Operand) (position : Nat) : Except ParseError Operand :=
  if operand.depth ≤ limit then .ok operand else .error ⟨position, .tooDeep⟩

end Operand

/-- An operator of the tighter binary level that waits for its right operand. -/
structure Conjunction where
  left : Operand
  negated : Bool
  position : Nat

/-- An OR that waits for its right operand. -/
structure Disjunction where
  left : Operand
  position : Nat

/-- What waits for operands on one level of parentheses: at most one OR, inside its right operand at
most one AND or NOT between operands, and inside that the prefix NOTs with the innermost first. -/
structure Level where
  disjunction : Option Disjunction
  conjunction : Option Conjunction
  negations : List Nat

namespace Level

/-- A level on which nothing waits. -/
def empty : Level := ⟨none, none, []⟩

variable (limit : Nat)

/-- Negates an operand once for each prefix NOT that waits for it. -/
def negate : List Nat → Operand → Except ParseError Operand
  | [], operand => .ok operand
  | position :: outer, operand => do negate outer (← operand.not.within limit position)

/-- Joins an operand to the AND or NOT that waits for it. -/
def conjoin : Option Conjunction → Operand → Except ParseError Operand
  | none, operand => .ok operand
  | some waiting, operand => do
    let right ← if waiting.negated then operand.not.within limit waiting.position else .ok operand
    (waiting.left.and right).within limit waiting.position

/-- Joins an operand to the OR that waits for it. -/
def disjoin : Option Disjunction → Operand → Except ParseError Operand
  | none, operand => .ok operand
  | some waiting, operand => (waiting.left.or operand).within limit waiting.position

end Level

/-- Whether the next token should begin an operand or follow one. A wanting reader remembers the
operator just before, if the previous token is one, since a missing operand is blamed on it. -/
inductive Mode where
  | wanting (blame : Option (Operator × Nat))
  | holding (operand : Operand)

/-- The reader between two tokens. `enclosing` lists the open parentheses, innermost first, each with
its byte position and the level that it interrupts. -/
structure Reader where
  enclosing : List (Nat × Level)
  level : Level
  mode : Mode

namespace Reader

/-- The reader before the first token. -/
def start : Reader := ⟨[], .empty, .wanting none⟩

/-- The number of parentheses that are open around a level and of prefix NOTs that wait outside it. -/
def openAround : List (Nat × Level) → Nat
  | [] => 0
  | (_, outer) :: enclosing => outer.negations.length + 1 + openAround enclosing

/-- The number of open parentheses and waiting prefix NOTs. -/
def nesting (reader : Reader) : Nat :=
  reader.level.negations.length + openAround reader.enclosing

variable (limit : Nat)

/-- Takes a complete operand: the prefix NOTs in front of it and the AND or NOT before them are
applied at once, for nothing that follows can bind more tightly. -/
def take (enclosing : List (Nat × Level)) (level : Level) (operand : Operand) :
    Except ParseError Reader := do
  let operand ← Level.negate limit level.negations operand
  let operand ← Level.conjoin limit level.conjunction operand
  return ⟨enclosing, ⟨level.disjunction, none, []⟩, .holding operand⟩

/-- Opens a parenthesis or prefix NOT at byte `position` unless too many are open. -/
def enter (reader : Reader) (position : Nat) (entered : Reader) : Except ParseError Reader :=
  if reader.nesting < limit then .ok entered else .error ⟨position, .tooDeep⟩

/-- Reads a token where an operand should begin. -/
def readOperand (reader : Reader) (blame : Option (Operator × Nat)) (next : Spanned) :
    Except ParseError Reader :=
  match next.token with
  | .pattern text =>
    if text.toList.isEmpty then .error ⟨next.offset, .emptyPattern⟩
    else take limit reader.enclosing reader.level (.pattern text)
  | .opening =>
    reader.enter limit next.offset
      ⟨(next.offset, reader.level) :: reader.enclosing, .empty, .wanting none⟩
  | .operator .not =>
    reader.enter limit next.offset
      { reader with
        level := { reader.level with negations := next.offset :: reader.level.negations }
        mode := .wanting (some (.not, next.offset)) }
  | .operator symbol => .error ⟨next.offset, .missingOperand symbol⟩
  | .closing =>
    match blame with
    | some (symbol, position) => .error ⟨position, .missingOperand symbol⟩
    | none => .error ⟨next.offset, .unexpectedToken next.token .operand⟩

/-- Makes an AND or a NOT between operands wait for its right operand. -/
def awaitConjunct (reader : Reader) (left : Operand) (negated : Bool) (next : Spanned)
    (symbol : Operator) : Reader :=
  { reader with
    level := { reader.level with conjunction := some ⟨left, negated, next.offset⟩ }
    mode := .wanting (some (symbol, next.offset)) }

/-- Reads a token after an operand. AND and NOT bind more tightly than an OR that waits; every other
token lets a waiting OR take the operand first. -/
def readOperator (reader : Reader) (operand : Operand) (next : Spanned) :
    Except ParseError Reader :=
  match next.token with
  | .operator .and => .ok (reader.awaitConjunct operand false next .and)
  | .operator .not => .ok (reader.awaitConjunct operand true next .not)
  | .operator .or => do
    let left ← Level.disjoin limit reader.level.disjunction operand
    return { reader with
      level := ⟨some ⟨left, next.offset⟩, none, []⟩
      mode := .wanting (some (.or, next.offset)) }
  | .closing => do
    let inner ← Level.disjoin limit reader.level.disjunction operand
    match reader.enclosing with
    | (_, outer) :: enclosing => take limit enclosing outer inner
    | [] => .error ⟨next.offset, .unmatchedParenthesis⟩
  | .pattern _ | .opening => do
    let _ ← Level.disjoin limit reader.level.disjunction operand
    let expected :=
      if reader.enclosing.isEmpty then Expectation.operatorOrEnd else .operatorOrClosing
    .error ⟨next.offset, .unexpectedToken next.token expected⟩

/-- Reads one token. -/
def step (reader : Reader) (next : Spanned) : Except ParseError Reader :=
  match reader.mode with
  | .wanting blame => reader.readOperand limit blame next
  | .holding operand => reader.readOperator limit operand next

/-- Ends the reading, after tokens of which the last one stops at byte `stop`. -/
def finish (reader : Reader) (stop : Nat) : Except ParseError (Formula String) :=
  match reader.mode with
  | .wanting (some (symbol, position)) => .error ⟨position, .missingOperand symbol⟩
  | .wanting none => .error ⟨stop, .unexpectedEnd .operand⟩
  | .holding operand => do
    let whole ← Level.disjoin limit reader.level.disjunction operand
    match reader.enclosing with
    | [] => return whole.formula
    | (position, _) :: _ => .error ⟨position, .unclosedParenthesis⟩

end Reader

/-- Builds the formula that a token sequence denotes, under a limit of its own. -/
def parseWithin (limit : Nat) (tokens : List Spanned) : Except ParseError (Formula String) :=
  match tokens.getLast? with
  | none => .error ⟨0, .emptyExpression⟩
  | some last => do (← tokens.foldlM (Reader.step limit) .start).finish limit last.stop

/-- Builds the formula that a token sequence denotes. -/
def parse (tokens : List Spanned) : Except ParseError (Formula String) :=
  parseWithin maxDepth tokens

end LinkSieve.Expression
