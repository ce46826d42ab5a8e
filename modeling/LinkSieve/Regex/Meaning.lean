import LinkSieve.Unicode.CaseFolding
import LinkSieve.Unicode.Property
import LinkSieve.Regex.Lexeme
import LinkSieve.Regex.Expr
/-!
# The meaning of patterns

The flags in force turn a tree into a regular expression. A change of flags lasts to the end of the
group that it stands in, across alternatives.

With the Unicode flag off, classes and case are those of ASCII. Since texts are not cut inside a
character, every construct that could match a part of a character is refused then: the dot, complements
of sets, properties, and the bytes from 0x80 on.
-/

namespace LinkSieve.Regex

open LinkSieve.Unicode

/-- The flags that bear on the meaning of a pattern. -/
structure Options where
  ignoreCase : Bool
  multiLine : Bool
  dotAll : Bool
  unicode : Bool
  carriageReturn : Bool
  deriving Repr, DecidableEq

namespace Options

/-- The flags before the first character of a pattern. -/
def initial (caseSensitive : Bool) : Options := ⟨!caseSensitive, false, false, true, false⟩

/-- The flags after a change. -/
def apply (options : Options) (change : FlagChange) : Options where
  ignoreCase := (change.state? .ignoreCase).getD options.ignoreCase
  multiLine := (change.state? .multiLine).getD options.multiLine
  dotAll := (change.state? .dotAll).getD options.dotAll
  unicode := (change.state? .unicode).getD options.unicode
  carriageReturn := (change.state? .carriageReturn).getD options.carriageReturn

/-- A set with the other cases of its members, if case is ignored. -/
def fold (options : Options) (set : CharSet) : CharSet :=
  if !options.ignoreCase then set
  else if options.unicode then set.caseClosure
  else set.asciiCaseClosure

/-- A set or its complement. A complement holds characters beyond ASCII, and so is refused where
classes are those of ASCII. -/
def negate (options : Options) (negated : Bool) (set : CharSet) : Option CharSet :=
  if !negated then some set
  else if options.unicode then some set.complement
  else none

/-- The characters of a property. -/
def property (options : Options) (name : PropertyName) (negated : Bool) : Option CharSet := do
  if !options.unicode then none
  let set ← match name with
    | .bare name => property? name
    | .valued property value => propertyValue? property value
  options.negate negated (options.fold set)

/-- The characters of a shorthand. -/
def shorthand (options : Options) (kind : Shorthand) (negated : Bool) : Option CharSet :=
  options.negate negated <|
    match kind, options.unicode with
    | .digit, true => decimalSet
    | .space, true => whitespaceSet
    | .word, true => wordSet
    | .digit, false => (namedClass? "digit").getD .empty
    | .space, false => (namedClass? "space").getD .empty
    | .word, false => (namedClass? "word").getD .empty

/-- The character of a literal outside brackets, as a set. -/
def literal (options : Options) (literal : Literal) : Option CharSet :=
  if !options.unicode && literal.byte && literal.char.toNat ≥ 0x80 then none
  else if !options.unicode && literal.char.toNat ≥ 0x80 then some (.singleton literal.char)
  else some (options.fold (.singleton literal.char))

/-- The character of a literal inside brackets. -/
def member (options : Options) (literal : Literal) : Option Char :=
  if !options.unicode && literal.char.toNat ≥ 0x80 then none else some literal.char

/-- What the dot matches. -/
def dot (options : Options) : Option CharSet :=
  if !options.unicode then none
  else if options.dotAll then some .full
  else if options.carriageReturn then
    some ((CharSet.singleton '\n').union (.singleton '\r')).complement
  else some (CharSet.singleton '\n').complement

/-- What an assertion asks of a place. -/
def condition (options : Options) : Assertion → Condition
  | .startLine => if options.multiLine then .lineStart options.carriageReturn else .textStart
  | .endLine => if options.multiLine then .lineEnd options.carriageReturn else .textEnd
  | .startText => .textStart
  | .endText => .textEnd
  | .wordBoundary => .wordBoundary options.unicode
  | .notWordBoundary => .notWordBoundary options.unicode
  | .wordStart => .wordStart options.unicode
  | .wordEnd => .wordEnd options.unicode
  | .wordStartHalf => .wordStartHalf options.unicode
  | .wordEndHalf => .wordEndHalf options.unicode

end Options

/-- The characters in the contents of a class. Case is ignored before a complement or an operation is
taken, so that `[^a]` matches neither case of the letter. -/
def ClassTree.chars (options : Options) : ClassTree → Option CharSet
  | empty => some .empty
  | literal value => do return .singleton (← options.member value)
  | range first final => do return .interval (← options.member first) (← options.member final)
  | named name negated => do options.negate negated (options.fold (← namedClass? name))
  | property name negated => options.property name negated
  | shorthand kind negated => options.shorthand kind negated
  | bracketed contents negated => do
    options.negate negated (options.fold (← contents.chars options))
  | items init last => do return (← init.chars options).union (← last.chars options)
  | combination operator left right => do
    let left := options.fold (← left.chars options)
    let right := options.fold (← right.chars options)
    match operator with
    | .intersection => return left.inter right
    | .difference => return left.diff right
    | .symmetricDifference => return left.symmDiff right

/-- The regular expression that a tree denotes, with the flags in force after it. Nothing means that
the pattern is refused. -/
def Tree.resolve (options : Options) : Tree → Option (Expr × Options)
  | empty => some (.empty, options)
  | flags change => some (.empty, options.apply change)
  | literal value => do return (.set (← options.literal value), options)
  | dot => do return (.set (← options.dot), options)
  | assertion kind => some (.condition (options.condition kind), options)
  | property name negated => do return (.set (← options.property name negated), options)
  | shorthand kind negated => do return (.set (← options.shorthand kind negated), options)
  | bracketed contents negated => do
    let set ← contents.chars options
    return (.set (← options.negate negated (options.fold set)), options)
  | repetition count operand => do
    let (operand, after) ← operand.resolve options
    return (.repetition count operand, after)
  | group captures change contents => do
    let (contents, _) ← contents.resolve (options.apply change)
    return (if captures then .capture contents else contents, options)
  | sequence init last => do
    let (init, between) ← init.resolve options
    let (last, after) ← last.resolve between
    return (.sequence init last, after)
  | alternatives init last => do
    let (init, between) ← init.resolve options
    let (last, after) ← last.resolve between
    return (.alternative init last, after)

end LinkSieve.Regex
