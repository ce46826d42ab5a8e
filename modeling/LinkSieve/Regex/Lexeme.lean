import LinkSieve.Unicode.Class
import LinkSieve.Text.Cut
import LinkSieve.Regex.Tree
/-!
# Parts of patterns

Readers for the parts that have no parts of their own: escapes, code points, property names, counts,
flags and names of groups. Each reader takes the characters from a place on and gives what it read
with the characters after it, or nothing if the pattern is malformed.

Under the flag `x`, white space and comments are skipped in many places, also inside a code point or a
count. Each reader takes that flag as its first argument.
-/

namespace LinkSieve.Regex

open LinkSieve.Unicode LinkSieve.Text

/-- Drops white space and comments, where the argument tells whether a comment is open. A comment
reaches from a number sign to the end of the line. -/
def skipBlanks : Bool → List Char → List Char
  | _, [] => []
  | true, c :: rest => skipBlanks (c != '\n') rest
  | false, c :: rest =>
    if isWhitespace c then skipBlanks false rest
    else if c = '#' then skipBlanks true rest
    else c :: rest

/-- Drops white space and comments if they are to be ignored. -/
def skip (ignoreSpace : Bool) (rest : List Char) : List Char :=
  if ignoreSpace then skipBlanks false rest else rest

/-- What a single escape or other character stands for, outside and inside brackets. -/
inductive Atom where
  | literal (literal : Literal)
  | dot
  | assertion (kind : Assertion)
  | property (name : PropertyName) (negated : Bool)
  | shorthand (kind : Shorthand) (negated : Bool)

/-- A character that was written as itself or with a letter escape. -/
def Atom.char (c : Char) : Atom := .literal ⟨c, false⟩

/-- The value of a hexadecimal digit. -/
def hexDigit? (c : Char) : Option Nat :=
  if c.isDigit then some (c.toNat - '0'.toNat)
  else if 'a' ≤ c ∧ c ≤ 'f' then some (c.toNat - 'a'.toNat + 10)
  else if 'A' ≤ c ∧ c ≤ 'F' then some (c.toNat - 'A'.toNat + 10)
  else none

/-- The character with a given code point. Surrogates are no characters. -/
def scalar? (point : Nat) : Option Char :=
  if valid : point.isValidChar then some (Char.ofNatAux point valid) else none

/-- Reads exactly `count` hexadecimal digits. -/
def fixedHex (ignoreSpace : Bool) : Nat → Nat → List Char → Option (Nat × List Char)
  | 0, value, rest => some (value, rest)
  | _ + 1, _, [] => none
  | count + 1, value, c :: rest => do
    fixedHex ignoreSpace count (16 * value + (← hexDigit? c)) (skip ignoreSpace rest)

/-- Reads the characters up to a closing brace, without ignored ones. The second argument tells
whether a comment is open. -/
def braced (ignoreSpace : Bool) : Bool → List Char → Option (List Char × List Char)
  | _, [] => none
  | true, c :: rest => braced ignoreSpace (c != '\n') rest
  | false, c :: rest =>
    if ignoreSpace && isWhitespace c then braced ignoreSpace false rest
    else if ignoreSpace && c = '#' then braced ignoreSpace true rest
    else if c = '}' then some ([], rest)
    else (braced ignoreSpace false rest).map fun (inside, after) => (c :: inside, after)

/-- Reads a code point after `\x`, `\u` or `\U`: two, four or eight digits, or any positive number of
digits in braces. -/
def codePoint (ignoreSpace : Bool) (letter : Char) (rest : List Char) : Option (Literal × List Char) :=
  match skip ignoreSpace rest with
  | [] => none
  | '{' :: rest => do
    let (digits, rest) ← braced ignoreSpace false rest
    if digits.isEmpty then none
    let value ← digits.foldlM (fun value c => do return 16 * value + (← hexDigit? c)) 0
    return (⟨← scalar? value, false⟩, rest)
  | rest => do
    let count := if letter = 'x' then 2 else if letter = 'u' then 4 else 8
    let (value, rest) ← fixedHex ignoreSpace count 0 rest
    return (⟨← scalar? value, letter = 'x'⟩, rest)

/-- The property that a text in braces names. Between a property and its value stands `!=`, a colon or
an equals sign; the first of these three that occurs at all decides, and each of them only
separates. -/
def PropertyName.ofBraced (text : List Char) : PropertyName :=
  match ((cutAt? ['!', '='] text).or (cutAt? [':'] text)).or (cutAt? ['='] text) with
  | some (property, value) => .valued property value
  | none => .bare text

/-- Reads a property after `\p` or `\P`: one character, or a name in braces. -/
def propertyName (ignoreSpace : Bool) (rest : List Char) : Option (PropertyName × List Char) :=
  match skip ignoreSpace rest with
  | [] => none
  | '{' :: rest => do
    let (text, rest) ← braced ignoreSpace false rest
    return (.ofBraced text, rest)
  | c :: rest => if c = '\\' then none else some (.bare [c], rest)

/-- The characters that spell the special word boundaries. -/
def isBoundaryChar (c : Char) : Bool := c.isAlpha || c == '-'

/-- The word boundaries that are named in braces. -/
def namedBoundary? (name : List Char) : Option Assertion :=
  match String.ofList name with
  | "start" => some .wordStart
  | "end" => some .wordEnd
  | "start-half" => some .wordStartHalf
  | "end-half" => some .wordEndHalf
  | _ => none

/-- Reads what may follow `\b`. A brace with a letter or hyphen after it must name a special boundary;
any other brace is left, for a repetition count. -/
def boundary (ignoreSpace : Bool) (rest : List Char) : Option (Assertion × List Char) :=
  match rest with
  | '{' :: inside =>
    match skip ignoreSpace inside with
    | [] => none
    | c :: _ =>
      if isBoundaryChar c then do
        let (name, after) ← braced ignoreSpace false inside
        return (← namedBoundary? name, after)
      else some (.wordBoundary, rest)
  | _ => some (.wordBoundary, rest)

/-- Characters that have a meaning of their own and lose it after a backslash. -/
def isMeta (c : Char) : Bool := "\\.+*?()|[]\x7b\x7d^$#&-~".toList.contains c

/-- Characters that may stand after a backslash for themselves: those with a meaning, and the rest of
ASCII except letters, digits and angle brackets. -/
def isEscapable (c : Char) : Bool :=
  isMeta c || (c.toNat < 0x80 && !c.isAlphanum && c != '<' && c != '>')

/-- Reads what follows a backslash. References to groups are not offered, so digits are refused. -/
def escape (ignoreSpace : Bool) : List Char → Option (Atom × List Char)
  | [] => none
  | c :: rest =>
    if isEscapable c then some (.char c, rest)
    else
      match c with
      | 'x' | 'u' | 'U' => do
        let (literal, rest) ← codePoint ignoreSpace c rest
        return (.literal literal, rest)
      | 'p' | 'P' => do
        let (name, rest) ← propertyName ignoreSpace rest
        return (.property name (c = 'P'), rest)
      | 'd' => some (.shorthand .digit false, rest)
      | 'D' => some (.shorthand .digit true, rest)
      | 's' => some (.shorthand .space false, rest)
      | 'S' => some (.shorthand .space true, rest)
      | 'w' => some (.shorthand .word false, rest)
      | 'W' => some (.shorthand .word true, rest)
      | 'a' => some (.char '\x07', rest)
      | 'f' => some (.char '\x0c', rest)
      | 't' => some (.char '\t', rest)
      | 'n' => some (.char '\n', rest)
      | 'r' => some (.char '\r', rest)
      | 'v' => some (.char '\x0b', rest)
      | 'A' => some (.assertion .startText, rest)
      | 'z' => some (.assertion .endText, rest)
      | 'b' => do
        let (kind, rest) ← boundary ignoreSpace rest
        return (.assertion kind, rest)
      | 'B' => some (.assertion .notWordBoundary, rest)
      | '<' => some (.assertion .wordStart, rest)
      | '>' => some (.assertion .wordEnd, rest)
      | _ => none

/-- Reads one character or escape outside brackets. -/
def atom (ignoreSpace : Bool) (c : Char) (rest : List Char) : Option (Atom × List Char) :=
  match c with
  | '\\' => escape ignoreSpace rest
  | '.' => some (.dot, rest)
  | '^' => some (.assertion .startLine, rest)
  | '$' => some (.assertion .endLine, rest)
  | c => some (.char c, rest)

/-- Reads one character or escape inside brackets. -/
def classAtom (ignoreSpace : Bool) (c : Char) (rest : List Char) : Option (Atom × List Char) :=
  if c = '\\' then escape ignoreSpace rest else some (.char c, rest)

/-- Reads digits with blanks and comments between them. The first argument tells whether a comment is
open. -/
def spacedDigits : Bool → List Char → List Char × List Char
  | _, [] => ([], [])
  | true, c :: rest => spacedDigits (c != '\n') rest
  | false, c :: rest =>
    if c.isDigit then
      let (digits, after) := spacedDigits false rest
      (c :: digits, after)
    else if isWhitespace c then spacedDigits false rest
    else if c = '#' then spacedDigits true rest
    else ([], c :: rest)

/-- Reads a number of a count, with white space around it. Numbers have 32 bits. -/
def countNumber (ignoreSpace : Bool) (rest : List Char) : Option (Nat × List Char) :=
  let (digits, rest) :=
    if ignoreSpace then spacedDigits false rest
    else
      let (digits, after) := (rest.dropWhile isWhitespace).span Char.isDigit
      (digits, after.dropWhile isWhitespace)
  let value := CharSet.decimalValue digits
  if digits.isEmpty || value ≥ UInt32.size then none else some (value, rest)

/-- Reads a count after its opening brace: `n`, `n,` or `n,m` with `n` at most `m`. A question mark
after the closing brace belongs to the count. -/
def count (ignoreSpace : Bool) (rest : List Char) : Option (Count × List Char) := do
  let (least, rest) ← countNumber ignoreSpace (skip ignoreSpace rest)
  let (most, rest) ← match rest with
    | ',' :: rest =>
      match skip ignoreSpace rest with
      | '}' :: rest => some (none, '}' :: rest)
      | rest => (countNumber ignoreSpace rest).map fun (most, rest) => (some most, rest)
    | rest => some (some least, rest)
  match rest with
  | '}' :: rest =>
    let rest := match skip ignoreSpace rest with
      | '?' :: rest => rest
      | rest => rest
    if most.any (· < least) then none else some (⟨least, most⟩, rest)
  | _ => none

/-- What ends a list of flags. -/
inductive FlagEnd where
  | colon
  | parenthesis

/-- Reads flags up to a colon or a parenthesis. Flags after a hyphen are switched off; there is at most
one hyphen, it is not the last character, and no flag is named twice. -/
def flags (change : FlagChange) (negated dangling : Bool) :
    List Char → Option ((FlagChange × FlagEnd) × List Char)
  | [] => none
  | c :: rest =>
    if c = ':' then if dangling then none else some ((change, .colon), rest)
    else if c = ')' then if dangling then none else some ((change, .parenthesis), rest)
    else if c = '-' then if negated then none else flags change true true rest
    else do
      let flag ← Flag.ofChar? c
      if (change.state? flag).isSome then none
      else if negated then flags { change with off := flag :: change.off } true false rest
      else flags { change with on := flag :: change.on } false false rest

/-- Whether a text can name a group. -/
def isGroupName : List Char → Bool
  | [] => false
  | first :: rest =>
    (first == '_' || isAlphabetic first) &&
      rest.all fun c => isAlphanumeric c || ['_', '.', '[', ']'].contains c

/-- Reads the name of a group, up to and including the closing angle bracket. -/
def groupName (rest : List Char) : Option (List Char × List Char) :=
  match rest.span (· ≠ '>') with
  | (name, '>' :: after) => if isGroupName name then some (name, after) else none
  | _ => none

/-- The classes that are named between colons, and the ASCII characters in them. -/
def namedClass? (name : String) : Option CharSet :=
  match name with
  | "alnum" => some ⟨[(0x30, 0x39), (0x41, 0x5A), (0x61, 0x7A)]⟩
  | "alpha" => some ⟨[(0x41, 0x5A), (0x61, 0x7A)]⟩
  | "ascii" => some ⟨[(0x00, 0x7F)]⟩
  | "blank" => some ⟨[(0x09, 0x09), (0x20, 0x20)]⟩
  | "cntrl" => some ⟨[(0x00, 0x1F), (0x7F, 0x7F)]⟩
  | "digit" => some ⟨[(0x30, 0x39)]⟩
  | "graph" => some ⟨[(0x21, 0x7E)]⟩
  | "lower" => some ⟨[(0x61, 0x7A)]⟩
  | "print" => some ⟨[(0x20, 0x7E)]⟩
  | "punct" => some ⟨[(0x21, 0x2F), (0x3A, 0x40), (0x5B, 0x60), (0x7B, 0x7E)]⟩
  | "space" => some ⟨[(0x09, 0x0D), (0x20, 0x20)]⟩
  | "upper" => some ⟨[(0x41, 0x5A)]⟩
  | "word" => some ⟨[(0x30, 0x39), (0x41, 0x5A), (0x5F, 0x5F), (0x61, 0x7A)]⟩
  | "xdigit" => some ⟨[(0x30, 0x39), (0x41, 0x46), (0x61, 0x66)]⟩
  | _ => none

/-- Reads a named class after its opening bracket. Nothing means that the bracket opens a set
instead. -/
def namedClass (rest : List Char) : Option (ClassTree × List Char) := do
  let rest ← match rest with
    | ':' :: rest => some rest
    | _ => none
  let (negated, rest) := match rest with
    | '^' :: rest => (true, rest)
    | rest => (false, rest)
  match rest.span (· ≠ ':') with
  | (name, ':' :: ']' :: after) =>
    let name := String.ofList name
    if (namedClass? name).isSome then some (.named name negated, after) else none
  | _ => none

end LinkSieve.Regex
