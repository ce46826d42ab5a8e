import Mathlib.Data.List.TakeWhile
import LinkSieve.Expression.Lexer
import LinkSieve.Text.Cut
import LinkSieve.Proofs.Text.Case
import LinkSieve.Proofs.Unicode.Class
/-!
# Lexemes

A lexeme is what a token is read from: a parenthesis, a literal between quotes, or a run of word
characters. The token that a lexeme denotes is stated here without the lexer. Each lexeme is then
read as that token from the beginning of a text, whatever follows it; only behind a word there
must be no further word character.
-/

namespace LinkSieve.Expression

open LinkSieve.Text

/-- A unit of a literal: a backslash together with the character after it, or any other
character. -/
inductive LiteralUnit where
  | pair (c : Char)
  | plain (c : Char) (notQuote : c ≠ '"') (notBackslash : c ≠ '\\')

namespace LiteralUnit

/-- The unit as it is written. -/
def chars : LiteralUnit → List Char
  | pair c => ['\\', c]
  | plain c _ _ => [c]

/-- What the unit stands for. A quote and a backslash lose the backslash before them, and every
other pair is kept. -/
def text : LiteralUnit → List Char
  | pair '"' => ['"']
  | pair '\\' => ['\\']
  | pair c => ['\\', c]
  | plain c _ _ => [c]

/-- The lexer resolves a pair in the same way. -/
theorem text_pair (c : Char) : (pair c).text = unescape c := by
  unfold text unescape
  split <;> simp_all

end LiteralUnit

/-- What a token is read from. -/
inductive Lexeme where
  | opening
  | closing
  | literal (units : List LiteralUnit)
  | word (chars : List Char) (nonempty : chars ≠ []) (wordChars : ∀ c ∈ chars, isWordChar c = true)

namespace Lexeme

/-- The lexeme as it is written. -/
def chars : Lexeme → List Char
  | opening => ['(']
  | closing => [')']
  | literal units => '"' :: units.flatMap LiteralUnit.chars ++ ['"']
  | word chars _ _ => chars

/-- Whether the lexeme is a run of word characters. -/
def isWord : Lexeme → Bool
  | word .. => true
  | _ => false

end Lexeme

/-- Whether a word spells an operator, where each letter has either case. -/
def Spells (word : List Char) (symbol : Operator) : Prop :=
  List.Forall₂ (fun c letter => c = letter ∨ c = letter.toLower) word symbol.name.toList

/-- The token that a lexeme denotes. A word that spells an operator is that operator, even if the
table has an entry of that name. -/
inductive Lexeme.Denotes (table : PatternTable) : Lexeme → Token → Prop where
  | opening : Denotes table .opening .opening
  | closing : Denotes table .closing .closing
  | literal (units : List LiteralUnit) :
      Denotes table (.literal units) (.pattern (String.ofList (units.flatMap LiteralUnit.text)))
  | operator {chars : List Char} {nonempty : chars ≠ []}
      {wordChars : ∀ c ∈ chars, isWordChar c = true} {symbol : Operator}
      (spells : Spells chars symbol) :
      Denotes table (.word chars nonempty wordChars) (.operator symbol)
  | name {chars : List Char} {nonempty : chars ≠ []}
      {wordChars : ∀ c ∈ chars, isWordChar c = true} {pattern : String}
      (noOperator : ∀ symbol, ¬Spells chars symbol)
      (defined : table.get? (String.ofList chars) = some pattern) :
      Denotes table (.word chars nonempty wordChars) (.pattern pattern)

/-- The lexer recognises the operators by their spelling. -/
theorem ofWord?_eq_some_iff (word : List Char) (symbol : Operator) :
    Operator.ofWord? word = some symbol ↔ Spells word symbol := by
  have capitals : ∀ letter ∈ symbol.name.toList, 65 ≤ letter.toNat ∧ letter.toNat ≤ 90 := by
    rw [← List.forall_iff_forall_mem]
    cases symbol <;> decide
  have names : symbol.name.toList.map Char.toLower =
      match symbol with
      | .and => ['a', 'n', 'd']
      | .or => ['o', 'r']
      | .not => ['n', 'o', 't'] := by
    cases symbol <;> rfl
  rw [Spells, ← map_toLower_eq_iff capitals, names, Operator.ofWord?]
  generalize word.map Char.toLower = small
  cases symbol <;> grind

/-- A word is no operator exactly if it spells none. -/
theorem ofWord?_eq_none_iff (word : List Char) :
    Operator.ofWord? word = none ↔ ∀ symbol, ¬Spells word symbol := by
  simp only [Option.eq_none_iff_forall_ne_some, ne_eq, ofWord?_eq_some_iff]

/-- The lexer takes a word for what it denotes. -/
theorem wordToken?_eq_some_iff (table : PatternTable) {chars : List Char} (nonempty : chars ≠ [])
    (wordChars : ∀ c ∈ chars, isWordChar c = true) (token : Token) :
    wordToken? table chars = some token ↔
      Lexeme.Denotes table (.word chars nonempty wordChars) token := by
  constructor
  · intro found
    unfold wordToken? at found
    split at found
    next symbol isOperator =>
      cases found
      exact .operator ((ofWord?_eq_some_iff chars symbol).mp isOperator)
    next noOperator =>
      obtain ⟨pattern, defined, rfl⟩ := Option.map_eq_some_iff.mp found
      exact .name ((ofWord?_eq_none_iff chars).mp noOperator) defined
  · intro denotes
    cases denotes with
    | operator spells => simp [wordToken?, (ofWord?_eq_some_iff chars _).mpr spells]
    | name noOperator defined =>
      simp [wordToken?, (ofWord?_eq_none_iff chars).mpr noOperator, defined]

/-- A word character is no white space. -/
theorem isWhitespace_eq_false_of_isWordChar {c : Char} (wordChar : isWordChar c = true) :
    Unicode.isWhitespace c = false := by
  cases blank : Unicode.isWhitespace c with
  | false => rfl
  | true =>
    have noLetter := Unicode.isAlphanumeric_eq_false_of_isWhitespace blank
    have underscore : c = '_' := by simpa [isWordChar, noLetter] using wordChar
    subst underscore
    cases blank

/-- White space is no word character. -/
theorem isWordChar_eq_false_of_isWhitespace {c : Char} (blank : Unicode.isWhitespace c = true) :
    isWordChar c = false := by
  cases wordChar : isWordChar c with
  | false => rfl
  | true =>
    rw [isWhitespace_eq_false_of_isWordChar wordChar] at blank
    cases blank

/-- A literal is read up to its closing quote, whatever follows it. The induction is on the
units. -/
theorem literal?_units (units : List LiteralUnit) (rest : List Char) :
    literal? (units.flatMap LiteralUnit.chars ++ '"' :: rest) =
      some (units.flatMap LiteralUnit.text, units.flatMap LiteralUnit.chars ++ ['"'], rest) := by
  induction units with
  | nil => simp [literal?]
  | cons unit units inductionHypothesis =>
    cases unit with
    | pair c =>
      simp [LiteralUnit.chars, LiteralUnit.text_pair, literal?, inductionHypothesis]
    | plain c notQuote notBackslash =>
      simp only [List.flatMap_cons, LiteralUnit.chars, LiteralUnit.text, List.cons_append,
        List.nil_append]
      rw [literal?]
      · simp [notQuote, inductionHypothesis]
      · intro isBackslash
        exact absurd isBackslash notBackslash
      · intro _ _ isBackslash
        exact absurd isBackslash notBackslash

/-- What is read as a literal consists of units and a closing quote. The induction follows the
lexer. -/
theorem exists_units_of_literal? {input text read after : List Char}
    (found : literal? input = some (text, read, after)) :
    ∃ units : List LiteralUnit,
      text = units.flatMap LiteralUnit.text ∧ read = units.flatMap LiteralUnit.chars ++ ['"'] := by
  fun_induction literal? input generalizing text read after with
  | case1 => cases found
  | case2 => cases found
  | case3 c rest inductionHypothesis =>
    obtain ⟨⟨innerText, innerRead, innerAfter⟩, inner, same⟩ := Option.map_eq_some_iff.mp found
    cases same
    obtain ⟨units, rfl, rfl⟩ := inductionHypothesis inner
    exact ⟨.pair c :: units, by simp [LiteralUnit.text_pair], by simp [LiteralUnit.chars]⟩
  | case4 rest =>
    cases found
    exact ⟨[], rfl, rfl⟩
  | case5 c rest notEnd notPair notQuote inductionHypothesis =>
    obtain ⟨⟨innerText, innerRead, innerAfter⟩, inner, same⟩ := Option.map_eq_some_iff.mp found
    cases same
    obtain ⟨units, rfl, rfl⟩ := inductionHypothesis inner
    have notBackslash : c ≠ '\\' := by
      rintro rfl
      cases rest with
      | nil => exact notEnd rfl rfl
      | cons next others => exact notPair next others rfl rfl
    exact ⟨.plain c notQuote notBackslash :: units, rfl, rfl⟩

/-- A gap before a token is skipped. Its bytes count. -/
theorem tokensFrom_gap (table : PatternTable) (offset : Nat) {gap : List Char}
    (blank : ∀ c ∈ gap, Unicode.isWhitespace c = true) (rest : List Char) :
    tokensFrom table offset (gap ++ rest) = tokensFrom table (offset + byteLength gap) rest := by
  induction gap generalizing offset with
  | nil => rfl
  | cons c others inductionHypothesis =>
    obtain ⟨blankHead, blankOthers⟩ := List.forall_mem_cons.mp blank
    rw [List.cons_append, tokensFrom, if_pos blankHead, inductionHypothesis _ blankOthers,
      byteLength_cons, Nat.add_assoc]

/-- A run of word characters is read to its end if no further word character follows. -/
theorem takeWhile_word {chars rest : List Char} (wordChars : ∀ c ∈ chars, isWordChar c = true)
    (boundary : ∀ c ∈ rest.head?, isWordChar c = false) :
    (chars ++ rest).takeWhile isWordChar = chars ∧ (chars ++ rest).dropWhile isWordChar = rest :=
  ⟨takeWhile_stretch wordChars boundary, dropWhile_stretch wordChars boundary⟩

/-- The lexer takes a word from word characters. -/
theorem isWordChar_of_mem_word {c : Char} (wordChar : isWordChar c = true) (rest : List Char) :
    ∀ letter ∈ c :: rest.takeWhile isWordChar, isWordChar letter = true := by
  refine List.forall_mem_cons.mpr ⟨wordChar, ?_⟩
  intro letter member
  exact List.mem_takeWhile_imp member

/-- Behind the word that it takes there is no word character. -/
theorem isWordChar_head_dropWhile (rest : List Char) :
    ∀ letter ∈ (rest.dropWhile isWordChar).head?, isWordChar letter = false := by
  intro letter first
  have stopped := List.head?_dropWhile_not isWordChar rest
  rw [first] at stopped
  simpa using stopped

/-- A word at the beginning of a text is read to its end. It is reported if it denotes nothing, and
otherwise reading goes on behind it. -/
theorem tokensFrom_word (table : PatternTable) (offset : Nat) {chars rest : List Char}
    (nonempty : chars ≠ []) (wordChars : ∀ c ∈ chars, isWordChar c = true)
    (boundary : ∀ c ∈ rest.head?, isWordChar c = false) :
    tokensFrom table offset (chars ++ rest) =
      (wordToken? table chars).elim (.error (.unknownWord offset (String.ofList chars)))
        fun token => (⟨token, offset, offset + byteLength chars⟩ :: ·) <$>
          tokensFrom table (offset + byteLength chars) rest := by
  obtain ⟨taken, dropped⟩ := takeWhile_word wordChars boundary
  obtain ⟨c, others, rfl⟩ := List.exists_cons_of_ne_nil nonempty
  have wordChar : isWordChar c = true := wordChars c List.mem_cons_self
  rw [List.cons_append, List.takeWhile_cons_of_pos wordChar] at taken
  rw [List.cons_append, List.dropWhile_cons_of_pos wordChar] at dropped
  have noBlank := isWhitespace_eq_false_of_isWordChar wordChar
  have noSign : c ≠ '(' ∧ c ≠ ')' ∧ c ≠ '"' := by
    refine ⟨?_, ?_, ?_⟩ <;> rintro rfl <;> cases wordChar
  obtain ⟨noOpening, noClosing, noQuote⟩ := noSign
  rw [List.cons_append, tokensFrom]
  simp only [noBlank, noOpening, noClosing, noQuote, wordChar, Bool.false_eq_true, if_false,
    if_true, taken, dropped]
  cases wordToken? table (c :: others) with
  | none => rfl
  | some token => simp

/-- A lexeme at the beginning of a text is read as the token that it denotes, with the bytes of
the lexeme as its range, and reading goes on behind it. Behind a word there must be no word
character. -/
theorem tokensFrom_lexeme {table : PatternTable} {lexeme : Lexeme} {token : Token}
    (denotes : lexeme.Denotes table token) (offset : Nat) (rest : List Char)
    (boundary : lexeme.isWord = true → ∀ c ∈ rest.head?, isWordChar c = false) :
    tokensFrom table offset (lexeme.chars ++ rest) =
      (⟨token, offset, offset + byteLength lexeme.chars⟩ :: ·) <$>
        tokensFrom table (offset + byteLength lexeme.chars) rest := by
  cases lexeme with
  | opening =>
    cases denotes
    have noBlank : Unicode.isWhitespace '(' = false := rfl
    rw [Lexeme.chars, List.singleton_append, tokensFrom]
    simp [noBlank]
  | closing =>
    cases denotes
    have noBlank : Unicode.isWhitespace ')' = false := rfl
    rw [Lexeme.chars, List.singleton_append, tokensFrom]
    simp [noBlank]
  | literal units =>
    cases denotes
    have noBlank : Unicode.isWhitespace '"' = false := rfl
    have found := literal?_units units rest
    rw [Lexeme.chars, List.cons_append, List.cons_append, List.append_assoc, tokensFrom]
    simp only [noBlank, Bool.false_eq_true, if_false, if_true, Char.reduceEq]
    split
    next absent =>
      rw [List.singleton_append, found] at absent
      cases absent
    next text read after present =>
      rw [List.singleton_append, found] at present
      cases present
      simp [Nat.add_assoc]
  | word chars nonempty wordChars =>
    have denoted := (wordToken?_eq_some_iff table nonempty wordChars token).mpr denotes
    rw [Lexeme.chars, tokensFrom_word table offset nonempty wordChars (boundary rfl), denoted]
    rfl

end LinkSieve.Expression
