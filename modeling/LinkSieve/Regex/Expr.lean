import LinkSieve.Unicode.CharSet
import LinkSieve.Regex.Tree
/-!
# Regular expressions

What a pattern means once its flags have been applied: sets of characters, conditions on a place, and
their combinations. A capturing group means the same as its contents. It is kept because it takes up
room in the automaton whose size is limited.
-/

namespace LinkSieve.Regex

/-- Conditions on a place in a text. A condition on words asks for Unicode word characters if its
argument is true and for ASCII ones if it is false. A condition on lines takes a carriage return for
the end of a line if its argument is true. -/
inductive Condition where
  | textStart
  | textEnd
  | lineStart (carriageReturn : Bool)
  | lineEnd (carriageReturn : Bool)
  | wordBoundary (unicode : Bool)
  | notWordBoundary (unicode : Bool)
  | wordStart (unicode : Bool)
  | wordEnd (unicode : Bool)
  | wordStartHalf (unicode : Bool)
  | wordEndHalf (unicode : Bool)
  deriving Repr, DecidableEq

/-- A regular expression over characters. -/
inductive Expr where
  | empty
  | set (chars : Unicode.CharSet)
  | condition (asked : Condition)
  | sequence (first second : Expr)
  | choice (first second : Expr)
  | repetition (count : Count) (operand : Expr)
  | capture (contents : Expr)
  deriving Repr

namespace Expr

/-- A choice. Two sets make one set. -/
def alternative : Expr → Expr → Expr
  | set first, set second => set (first.union second)
  | first, second => choice first second

/-- Whether every match takes at least one character. -/
def consumes : Expr → Bool
  | empty | condition _ => false
  | set _ => true
  | sequence first second => first.consumes || second.consumes
  | choice first second => first.consumes && second.consumes
  | repetition count operand => count.least ≥ 1 && operand.consumes
  | capture contents => contents.consumes

/-- Whether no match takes a character. -/
def isBlank : Expr → Bool
  | empty | condition _ => true
  | set _ => false
  | sequence first second | choice first second => first.isBlank && second.isBlank
  | repetition count operand => count.most = some 0 || operand.isBlank
  | capture contents => contents.isBlank

end Expr

end LinkSieve.Regex
