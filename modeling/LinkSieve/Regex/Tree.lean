import LinkSieve.Unicode.CharSet
/-!
# Syntax trees of patterns

A pattern is a regular expression. Its tree keeps what was written: flags where they are set,
character classes as they are combined, groups with their kind. What a construct means under the
flags in force is decided later.

Trees are limited in how deeply they nest. A chain of alternatives, of consecutive items, or of items
of a class counts as one level however long it is, although it is kept as a chain of pairs here.
-/

namespace LinkSieve.Regex

/-- A character that stands for itself. `byte` is set for the two-digit form `\xHH`, which names a
byte where patterns are not read in the Unicode sense. -/
structure Literal where
  char : Char
  byte : Bool
  deriving Repr, DecidableEq

/-- Conditions on a place between characters. -/
inductive Assertion where
  | startLine
  | endLine
  | startText
  | endText
  | wordBoundary
  | notWordBoundary
  | wordStart
  | wordEnd
  | wordStartHalf
  | wordEndHalf
  deriving Repr, DecidableEq

/-- The classes with a letter of their own: digits, white space and word characters. -/
inductive Shorthand where
  | digit
  | space
  | word
  deriving Repr, DecidableEq

/-- The flags of a pattern. -/
inductive Flag where
  /-- `i`: letters match regardless of case. -/
  | ignoreCase
  /-- `m`: the line anchors match at every line. -/
  | multiLine
  /-- `s`: the dot matches a line feed too. -/
  | dotAll
  /-- `U`: repetitions prefer to be short. -/
  | swapGreed
  /-- `u`: classes and case are those of Unicode. -/
  | unicode
  /-- `R`: a carriage return ends a line as well. -/
  | carriageReturn
  /-- `x`: white space and comments in the pattern are skipped. -/
  | ignoreSpace
  deriving Repr, DecidableEq

/-- The letter of a flag. -/
def Flag.ofChar? : Char → Option Flag
  | 'i' => some ignoreCase
  | 'm' => some multiLine
  | 's' => some dotAll
  | 'U' => some swapGreed
  | 'u' => some unicode
  | 'R' => some carriageReturn
  | 'x' => some ignoreSpace
  | _ => none

/-- Flags that are switched on and flags that are switched off. -/
structure FlagChange where
  on : List Flag
  off : List Flag
  deriving Repr

/-- What a change does to one flag, if anything. -/
def FlagChange.state? (change : FlagChange) (flag : Flag) : Option Bool :=
  if change.on.contains flag then some true
  else if change.off.contains flag then some false
  else none

/-- A set of characters by a property: a bare name, or a property with a value. -/
inductive PropertyName where
  | bare (name : List Char)
  | valued (property value : List Char)
  deriving Repr

/-- Operators on sets inside brackets. -/
inductive SetOperator where
  | intersection
  | difference
  | symmetricDifference
  deriving Repr, DecidableEq

/-- The contents of a bracketed class. -/
inductive ClassTree where
  | empty
  | literal (literal : Literal)
  | range (first final : Literal)
  | named (name : String) (negated : Bool)
  | property (name : PropertyName) (negated : Bool)
  | shorthand (kind : Shorthand) (negated : Bool)
  | bracketed (contents : ClassTree) (negated : Bool)
  | items (init : ClassTree) (last : ClassTree)
  | combination (operator : SetOperator) (left right : ClassTree)
  deriving Repr

/-- How often something is repeated: at least `least` times, and at most `most` times if there is a
bound. -/
structure Count where
  least : Nat
  most : Option Nat
  deriving Repr, DecidableEq

/-- A pattern as it was written. -/
inductive Tree where
  | empty
  | flags (change : FlagChange)
  | literal (literal : Literal)
  | dot
  | assertion (kind : Assertion)
  | property (name : PropertyName) (negated : Bool)
  | shorthand (kind : Shorthand) (negated : Bool)
  | bracketed (contents : ClassTree) (negated : Bool)
  | repetition (count : Count) (operand : Tree)
  | group (captures : Bool) (change : FlagChange) (contents : Tree)
  | sequence (init : Tree) (last : Tree)
  | alternatives (init : Tree) (last : Tree)
  deriving Repr

/-- How deeply the contents of a class nest. In a chain of items only the outermost pair counts. -/
def ClassTree.nesting (inChain : Bool) : ClassTree → Nat
  | empty | literal _ | range _ _ | named _ _ | property _ _ | shorthand _ _ => 0
  | bracketed contents _ => contents.nesting false + 1
  | items init last =>
    max (init.nesting true) (last.nesting false) + (if inChain then 0 else 1)
  | combination _ left right => max (left.nesting false) (right.nesting false) + 1

/-- The place of a tree in a chain. -/
inductive Chain where
  | none
  | sequence
  | alternatives
  deriving DecidableEq

/-- How deeply a pattern nests. In a chain of items or of alternatives only the outermost pair
counts. -/
def Tree.nesting (chain : Chain) : Tree → Nat
  | empty | flags _ | literal _ | dot | assertion _ | property _ _ | shorthand _ _ => 0
  | bracketed contents _ => contents.nesting false + 1
  | repetition _ operand => operand.nesting .none + 1
  | group _ _ contents => contents.nesting .none + 1
  | sequence init last =>
    max (init.nesting .sequence) (last.nesting .none) + (if chain = .sequence then 0 else 1)
  | alternatives init last =>
    max (init.nesting .alternatives) (last.nesting .none) + (if chain = .alternatives then 0 else 1)

end LinkSieve.Regex
