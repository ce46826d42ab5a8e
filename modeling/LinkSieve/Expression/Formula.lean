/-!
# Boolean formulas over patterns

A filter expression denotes a formula: leaves joined by AND, OR and NOT. The leaves are a
parameter. The parser builds formulas over pattern texts, and a filter holds the same formula over
compiled matchers.

`traverse` replaces the leaves from left to right under any monad, so one definition serves a
conversion that can fail and one that keeps a record of its visits. `render` writes a formula over
texts in the canonical form, in which every binary operator has its own parentheses.
-/

namespace LinkSieve.Expression

/-- A boolean combination of leaves. -/
inductive Formula (α : Type) where
  | leaf (pattern : α)
  | and (left right : Formula α)
  | or (left right : Formula α)
  | not (operand : Formula α)
  deriving Repr, DecidableEq

namespace Formula

variable {α β : Type}

/-- The leaves from left to right, with repetitions. -/
def leaves : Formula α → List α
  | leaf pattern => [pattern]
  | and left right | or left right => left.leaves ++ right.leaves
  | not operand => operand.leaves

/-- The number of nodes on the longest way from the root to a leaf, both included. -/
def depth : Formula α → Nat
  | leaf _ => 1
  | and left right | or left right => max left.depth right.depth + 1
  | not operand => operand.depth + 1

/-- The same formula with every leaf converted. -/
def map (convert : α → β) : Formula α → Formula β
  | leaf pattern => leaf (convert pattern)
  | and left right => and (left.map convert) (right.map convert)
  | or left right => or (left.map convert) (right.map convert)
  | not operand => not (operand.map convert)

/-- Converts every leaf, from left to right, under the effects of `m`. Where a conversion fails, the
leaves after it are not visited. -/
def traverse {m : Type → Type} [Monad m] (visit : α → m β) : Formula α → m (Formula β)
  | leaf pattern => do return leaf (← visit pattern)
  | and left right => do
    let left ← left.traverse visit
    let right ← right.traverse visit
    return and left right
  | or left right => do
    let left ← left.traverse visit
    let right ← right.traverse visit
    return or left right
  | not operand => do return not (← operand.traverse visit)

/-- The truth value of a formula whose leaves have the given truth values. -/
def eval (holds : α → Bool) : Formula α → Bool
  | leaf pattern => holds pattern
  | and left right => left.eval holds && right.eval holds
  | or left right => left.eval holds || right.eval holds
  | not operand => !operand.eval holds

/-- A character as it stands inside a quoted literal: the quote and the backslash, and no other
character, are preceded by a backslash. -/
def escape (c : Char) : List Char :=
  if c = '"' ∨ c = '\\' then ['\\', c] else [c]

/-- A pattern text as a quoted literal. -/
def quote (text : List Char) : List Char :=
  '"' :: text.flatMap escape ++ ['"']

/-- The canonical form as a list of characters: parentheses around every AND and OR, none
elsewhere. -/
def canonical : Formula String → List Char
  | leaf pattern => quote pattern.toList
  | and left right => '(' :: left.canonical ++ " AND ".toList ++ right.canonical ++ [')']
  | or left right => '(' :: left.canonical ++ " OR ".toList ++ right.canonical ++ [')']
  | not operand => "NOT ".toList ++ operand.canonical

/-- The canonical form as a text. -/
def render (formula : Formula String) : String :=
  String.ofList formula.canonical

end Formula

end LinkSieve.Expression
