import LinkSieve.Text.Bytes
import LinkSieve.Expression.PatternTable
/-!
# Reading tokens

An expression is cut into tokens from left to right. White space separates tokens and is dropped. A
parenthesis is a token; a quote opens a literal that reaches to the next quote without a backslash
before it; a longest run of word characters is an operator or else a name of the pattern table. At
any other character, at a literal without an end, and at a word that is neither, reading stops with
an error at the first byte of the offending text.

Operators win over names, so an entry of an unchecked table whose name spells an operator is out of
reach.
-/

namespace LinkSieve.Expression

open LinkSieve.Text

/-- Why a text cannot be cut into tokens. Each position is that of the first byte of the offending
character, word or literal. -/
inductive LexError where
  | unexpectedChar (position : Nat) (char : Char)
  | unknownWord (position : Nat) (word : String)
  | unterminatedLiteral (position : Nat)
  deriving Repr, DecidableEq

namespace LexError

/-- The byte position that the error points at. -/
def position : LexError → Nat
  | unexpectedChar position _ | unknownWord position _ | unterminatedLiteral position => position

/-- The wording of the error. -/
def message : LexError → String
  | unexpectedChar position char =>
    "Unexpected character '" ++ char.toString ++ "' at offset " ++ toString position
  | unknownWord position word =>
    "Unknown word '" ++ word ++ "' at offset " ++ toString position ++
      ". Patterns must be quoted, e.g. \"" ++ word ++ "\""
  | unterminatedLiteral position =>
    "Unterminated pattern literal starting at offset " ++ toString position

end LexError

/-- What a character after a backslash stands for inside a literal. Only the quote and the backslash
lose their backslash; every other pair belongs to the pattern language and is kept. -/
def unescape (c : Char) : List Char :=
  if c = '"' ∨ c = '\\' then [c] else ['\\', c]

/-- Reads a literal whose opening quote has been read. The result is the text with its escapes
resolved, the characters read including the closing quote, and the characters after it. -/
def literal? : List Char → Option (List Char × List Char × List Char)
  | [] => none
  | ['\\'] => none
  | '\\' :: c :: rest =>
    (literal? rest).map fun (text, read, after) => (unescape c ++ text, '\\' :: c :: read, after)
  | c :: rest =>
    if c = '"' then some ([], [c], rest)
    else (literal? rest).map fun (text, read, after) => (c :: text, c :: read, after)

/-- The characters read and the characters after them are the whole input. -/
theorem literal?_append {input text read after : List Char}
    (found : literal? input = some (text, read, after)) : read ++ after = input := by
  fun_induction literal? input generalizing text read after with
  | case1 => cases found
  | case2 => cases found
  | case3 c rest inductionHypothesis =>
    obtain ⟨⟨innerText, innerRead, innerAfter⟩, inner, same⟩ := Option.map_eq_some_iff.mp found
    cases same
    simp [inductionHypothesis inner]
  | case4 rest => cases found; rfl
  | case5 c rest _ _ _ inductionHypothesis =>
    obtain ⟨⟨innerText, innerRead, innerAfter⟩, inner, same⟩ := Option.map_eq_some_iff.mp found
    cases same
    simp [inductionHypothesis inner]

/-- No more than the input is left after a literal. -/
theorem literal?_length {input text read after : List Char}
    (found : literal? input = some (text, read, after)) : after.length ≤ input.length := by
  rw [← literal?_append found, List.length_append]
  exact Nat.le_add_left _ _

/-- What a run of word characters denotes: an operator, or else the pattern of that name. -/
def wordToken? (table : PatternTable) (word : List Char) : Option Token :=
  match Operator.ofWord? word with
  | some symbol => some (.operator symbol)
  | none => (table.get? (String.ofList word)).map .pattern

/-- Cuts the characters that start at byte `offset` into tokens. -/
def tokensFrom (table : PatternTable) (offset : Nat) (input : List Char) :
    Except LexError (List Spanned) :=
  match input with
  | [] => .ok []
  | c :: rest =>
    let next := offset + c.utf8Size
    if Unicode.isWhitespace c then tokensFrom table next rest
    else if c = '(' then do
      return ⟨.opening, offset, next⟩ :: (← tokensFrom table next rest)
    else if c = ')' then do
      return ⟨.closing, offset, next⟩ :: (← tokensFrom table next rest)
    else if c = '"' then
      match found : literal? rest with
      | none => .error (.unterminatedLiteral offset)
      | some (text, read, after) =>
        have := literal?_length found
        let stop := next + byteLength read
        do return ⟨.pattern (String.ofList text), offset, stop⟩ :: (← tokensFrom table stop after)
    else if isWordChar c then
      let word := c :: rest.takeWhile isWordChar
      match wordToken? table word with
      | none => .error (.unknownWord offset (String.ofList word))
      | some token =>
        have := (List.dropWhile_suffix (l := rest) isWordChar).length_le
        let stop := offset + byteLength word
        do return ⟨token, offset, stop⟩ :: (← tokensFrom table stop (rest.dropWhile isWordChar))
    else .error (.unexpectedChar offset c)
termination_by input.length

/-- Cuts an expression into tokens, with the names of `table` standing for its patterns. -/
def tokenize (expression : String) (table : PatternTable) : Except LexError (List Spanned) :=
  tokensFrom table 0 expression.toList

end LinkSieve.Expression
