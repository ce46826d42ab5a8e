import LinkSieve.Proofs.Expression.Layout
/-!
# What the lexer cannot read

The lexer stops at the first place of a text from which on nothing can be read: a character that
begins no lexeme, a word that names nothing, or a quote without its counterpart. Everything before
that place can be read on its own, and is read as the tokens that the lexer had already found.

A text with such a place behind a readable one is refused for it. Only a word has to begin where it
is refused: the end of a longer word is no word.
-/

namespace LinkSieve.Expression

open LinkSieve.Text

/-- Reads one token, behind any white space. The result is the token with the characters behind it,
or nothing at the end of the text. -/
def nextToken? (table : PatternTable) (offset : Nat) :
    List Char → Except LexError (Option (Spanned × List Char))
  | [] => .ok none
  | c :: rest =>
    let next := offset + c.utf8Size
    if Unicode.isWhitespace c then nextToken? table next rest
    else if c = '(' then .ok (some (⟨.opening, offset, next⟩, rest))
    else if c = ')' then .ok (some (⟨.closing, offset, next⟩, rest))
    else if c = '"' then
      match literal? rest with
      | none => .error (.unterminatedLiteral offset)
      | some (text, read, after) =>
        .ok (some (⟨.pattern (String.ofList text), offset, next + byteLength read⟩, after))
    else if isWordChar c then
      let word := c :: rest.takeWhile isWordChar
      match wordToken? table word with
      | none => .error (.unknownWord offset (String.ofList word))
      | some token =>
        .ok (some (⟨token, offset, offset + byteLength word⟩, rest.dropWhile isWordChar))
    else .error (.unexpectedChar offset c)

/-- From byte `offset` on, tokens are read one after the other, until an error stops the reading. -/
inductive StopsAfter (table : PatternTable) : Nat → List Char → List Spanned → LexError → Prop where
  | here {offset : Nat} {input : List Char} {error : LexError}
      (failed : nextToken? table offset input = .error error) :
      StopsAfter table offset input [] error
  | later {offset : Nat} {input rest : List Char} {spanned : Spanned} {tokens : List Spanned}
      {error : LexError} (read : nextToken? table offset input = .ok (some (spanned, rest)))
      (further : StopsAfter table spanned.stop rest tokens error) :
      StopsAfter table offset input (spanned :: tokens) error

section NextToken

variable {table : PatternTable} {offset : Nat} {c : Char} {rest : List Char}

/-- White space is skipped. -/
theorem nextToken?_blank (blank : Unicode.isWhitespace c = true) :
    nextToken? table offset (c :: rest) = nextToken? table (offset + c.utf8Size) rest := by
  rw [nextToken?, if_pos blank]

/-- A literal with an end is read. -/
theorem nextToken?_literal {text read after : List Char}
    (found : literal? rest = some (text, read, after)) :
    nextToken? table offset ('"' :: rest) =
      .ok (some (⟨.pattern (String.ofList text), offset,
        offset + '"'.utf8Size + byteLength read⟩, after)) := by
  have noBlank : Unicode.isWhitespace '"' = false := rfl
  simp [nextToken?, noBlank, found]

/-- A literal without an end is reported. -/
theorem nextToken?_unterminated (absent : literal? rest = none) :
    nextToken? table offset ('"' :: rest) = .error (.unterminatedLiteral offset) := by
  have noBlank : Unicode.isWhitespace '"' = false := rfl
  simp [nextToken?, noBlank, absent]

variable (noBlank : ¬Unicode.isWhitespace c = true) (noOpening : ¬c = '(') (noClosing : ¬c = ')')
  (noQuote : ¬c = '"')
include noBlank noOpening noClosing noQuote

/-- A word that denotes something is read. -/
theorem nextToken?_word (wordChar : isWordChar c = true) {token : Token}
    (denoted : wordToken? table (c :: rest.takeWhile isWordChar) = some token) :
    nextToken? table offset (c :: rest) = .ok (some
      (⟨token, offset, offset + byteLength (c :: rest.takeWhile isWordChar)⟩,
        rest.dropWhile isWordChar)) := by
  rw [nextToken?, if_neg noBlank, if_neg noOpening, if_neg noClosing, if_neg noQuote,
    if_pos wordChar]
  simp only [denoted]

/-- Any other word is reported. -/
theorem nextToken?_unknown (wordChar : isWordChar c = true)
    (undenoted : wordToken? table (c :: rest.takeWhile isWordChar) = none) :
    nextToken? table offset (c :: rest) =
      .error (.unknownWord offset (String.ofList (c :: rest.takeWhile isWordChar))) := by
  rw [nextToken?, if_neg noBlank, if_neg noOpening, if_neg noClosing, if_neg noQuote,
    if_pos wordChar]
  simp only [undenoted]

/-- Any other character is reported. -/
theorem nextToken?_unexpected (noWordChar : ¬isWordChar c = true) :
    nextToken? table offset (c :: rest) = .error (.unexpectedChar offset c) := by
  rw [nextToken?, if_neg noBlank, if_neg noOpening, if_neg noClosing, if_neg noQuote,
    if_neg noWordChar]

end NextToken

/-- The lexer reads the next token, if there is one, and then the others. The induction follows the
lexer; of its cases only the white space takes a further step to reach the next token. -/
theorem tokensFrom_eq_nextToken? (table : PatternTable) (offset : Nat) (input : List Char) :
    tokensFrom table offset input = (nextToken? table offset input >>= fun next =>
      next.elim (.ok []) fun read =>
        (read.1 :: ·) <$> tokensFrom table read.1.stop read.2) := by
  fun_induction tokensFrom table offset input with
  | case1 => rfl
  | case2 offset c rest next blank =>
    rename_i inductionHypothesis
    rw [nextToken?_blank blank]
    exact inductionHypothesis
  | case3 => rfl
  | case4 => rfl
  | case5 offset rest absent => rw [nextToken?_unterminated absent]; rfl
  | case6 offset rest text read after found => rw [nextToken?_literal found]; rfl
  | case7 offset c rest noBlank noOpening noClosing noQuote wordChar word undenoted =>
    rw [nextToken?_unknown noBlank noOpening noClosing noQuote wordChar undenoted]
    rfl
  | case8 offset c rest noBlank noOpening noClosing noQuote wordChar word token denoted =>
    rw [nextToken?_word noBlank noOpening noClosing noQuote wordChar denoted]
    rfl
  | case9 offset c rest noBlank noOpening noClosing noQuote noWordChar =>
    rw [nextToken?_unexpected noBlank noOpening noClosing noQuote noWordChar]
    rfl

namespace StopsAfter

variable {table : PatternTable} {offset : Nat} {input : List Char} {tokens : List Spanned}
  {error : LexError}

/-- Where the reading of tokens stops, the lexer stops, with the same error. -/
theorem tokensFrom_eq (stops : StopsAfter table offset input tokens error) :
    tokensFrom table offset input = .error error := by
  induction stops with
  | here failed =>
    rw [tokensFrom_eq_nextToken?, failed]
    rfl
  | later read further inductionHypothesis =>
    rw [tokensFrom_eq_nextToken?, read]
    change (_ :: ·) <$> tokensFrom table _ _ = _
    rw [inductionHypothesis]
    rfl

/-- The text decides which tokens are read before the error. -/
theorem tokens_unique {others : List Spanned} {another : LexError}
    (stops : StopsAfter table offset input tokens error)
    (too : StopsAfter table offset input others another) : tokens = others := by
  induction stops generalizing others with
  | here failed =>
    cases too with
    | here => rfl
    | later read => cases failed.symm.trans read
  | later read further inductionHypothesis =>
    cases too with
    | here failed => cases failed.symm.trans read
    | later same beyond =>
      cases read.symm.trans same
      rw [inductionHypothesis beyond]

end StopsAfter

/-- From byte `position` on, with the characters `before` it, a text cannot be read, and the error
says why. A word is unknown as a whole, from its first character to its last. -/
inductive Unreadable (table : PatternTable) (position : Nat) (before : List Char) :
    List Char → LexError → Prop where
  | unexpectedChar {c : Char} {rest : List Char} (noBlank : Unicode.isWhitespace c = false)
      (noOpening : c ≠ '(') (noClosing : c ≠ ')') (noQuote : c ≠ '"')
      (noWordChar : isWordChar c = false) :
      Unreadable table position before (c :: rest) (.unexpectedChar position c)
  | unknownWord {word rest : List Char} (nonempty : word ≠ [])
      (wordChars : ∀ c ∈ word, isWordChar c = true)
      (begins : ∀ c ∈ before.getLast?, isWordChar c = false)
      (ends : ∀ c ∈ rest.head?, isWordChar c = false)
      (noOperator : ∀ symbol, ¬Spells word symbol)
      (undefined : table.get? (String.ofList word) = none) :
      Unreadable table position before (word ++ rest) (.unknownWord position (String.ofList word))
  | unterminatedLiteral {rest : List Char}
      (unclosed : ∀ (units : List LiteralUnit) (after : List Char),
        rest ≠ units.flatMap LiteralUnit.chars ++ '"' :: after) :
      Unreadable table position before ('"' :: rest) (.unterminatedLiteral position)

/-- A literal is without end exactly if no quote comes after some units. -/
theorem literal?_eq_none_iff (rest : List Char) :
    literal? rest = none ↔ ∀ (units : List LiteralUnit) (after : List Char),
      rest ≠ units.flatMap LiteralUnit.chars ++ '"' :: after := by
  constructor
  · rintro absent units after rfl
    rw [literal?_units] at absent
    cases absent
  · intro unclosed
    cases found : literal? rest with
    | none => rfl
    | some parts =>
      obtain ⟨text, read, after⟩ := parts
      obtain ⟨units, -, rfl⟩ := exists_units_of_literal? found
      refine absurd (literal?_append found).symm ?_
      rw [List.append_assoc, List.singleton_append]
      exact unclosed units after

/-- A word denotes nothing exactly if it spells no operator and is no name of the table. -/
theorem wordToken?_eq_none_iff (table : PatternTable) (word : List Char) :
    wordToken? table word = none ↔
      (∀ symbol, ¬Spells word symbol) ∧ table.get? (String.ofList word) = none := by
  rw [← ofWord?_eq_none_iff]
  unfold wordToken?
  cases Operator.ofWord? word <;> simp

/-- Where a text cannot be read, the lexer reports it. -/
theorem tokensFrom_eq_error_of_unreadable {table : PatternTable} {position : Nat}
    {before rest : List Char} {error : LexError}
    (unreadable : Unreadable table position before rest error) :
    tokensFrom table position rest = .error error := by
  cases unreadable with
  | unexpectedChar noBlank noOpening noClosing noQuote noWordChar =>
    rw [tokensFrom]
    simp [noBlank, noOpening, noClosing, noQuote, noWordChar]
  | @unknownWord word rest nonempty wordChars begins ends noOperator undefined =>
    have undenoted := (wordToken?_eq_none_iff table word).mpr ⟨noOperator, undefined⟩
    rw [tokensFrom_word table position nonempty wordChars ends, undenoted]
    rfl
  | @unterminatedLiteral rest unclosed =>
    have absent := (literal?_eq_none_iff rest).mpr unclosed
    have noBlank : Unicode.isWhitespace '"' = false := rfl
    rw [tokensFrom]
    simp only [noBlank, Bool.false_eq_true, if_false, if_true, Char.reduceEq]
    split
    next => rfl
    next present =>
      rw [absent] at present
      cases present

/-! ## A readable text in front -/

/-- No word goes across from one text into the next. -/
def Apart (before rest : List Char) : Prop :=
  ∀ c ∈ before.getLast?, isWordChar c = true → ∀ d ∈ rest.head?, isWordChar d = false

/-- It is the end of the first text that matters. -/
theorem Apart.of_append {first second rest : List Char} (apart : Apart (first ++ second) rest) :
    Apart second rest := by
  intro c last
  refine apart c ?_
  rw [List.getLast?_append, Option.mem_def.mp last]
  rfl

/-- Where a text cannot be read, no word goes across to it. -/
theorem Unreadable.apart {table : PatternTable} {position : Nat} {before rest : List Char}
    {error : LexError} (unreadable : Unreadable table position before rest error) :
    Apart before rest := by
  intro c last wordChar d first
  cases unreadable with
  | unexpectedChar noBlank noOpening noClosing noQuote noWordChar =>
    cases first
    exact noWordChar
  | unknownWord nonempty wordChars begins =>
    rw [begins c last] at wordChar
    cases wordChar
  | unterminatedLiteral unclosed =>
    cases first
    rfl

/-- A word ends with a word character. -/
theorem exists_last_of_word {lexeme : Lexeme} (isWord : lexeme.isWord = true) :
    ∃ c ∈ lexeme.chars.getLast?, isWordChar c = true := by
  cases lexeme with
  | word chars nonempty wordChars =>
    exact ⟨chars.getLast nonempty, List.getLast?_eq_some_getLast nonempty,
      wordChars _ (List.getLast_mem nonempty)⟩
  | _ => cases isWord

/-- A lexeme that ends where it is read does not go across. -/
theorem apart_lexeme {lexeme : Lexeme} {rest : List Char}
    (boundary : lexeme.isWord = true → ∀ c ∈ rest.head?, isWordChar c = false) :
    Apart lexeme.chars rest := by
  intro c last wordChar
  cases lexeme with
  | opening =>
    cases last
    cases wordChar
  | closing =>
    cases last
    cases wordChar
  | literal units =>
    rw [Lexeme.chars, List.getLast?_append] at last
    cases last
    cases wordChar
  | word chars nonempty wordChars => exact boundary rfl

/-- A place that cannot be read stays one with more text in front, unless a word goes across. -/
theorem Unreadable.prepend {table : PatternTable} {position : Nat} {first before rest : List Char}
    {error : LexError} (apart : Apart first (before ++ rest))
    (unreadable : Unreadable table position before rest error) :
    Unreadable table position (first ++ before) rest error := by
  cases unreadable with
  | unexpectedChar noBlank noOpening noClosing noQuote noWordChar =>
    exact .unexpectedChar noBlank noOpening noClosing noQuote noWordChar
  | @unknownWord word rest nonempty wordChars begins ends noOperator undefined =>
    refine .unknownWord nonempty wordChars ?_ ends noOperator undefined
    intro c last
    rw [List.getLast?_append] at last
    cases ended : before.getLast? with
    | some d =>
      rw [ended] at last
      exact begins c (ended.trans last)
    | none =>
      rw [ended, Option.none_or] at last
      obtain rfl := List.getLast?_eq_none_iff.mp ended
      obtain ⟨d, others, rfl⟩ := List.exists_cons_of_ne_nil nonempty
      cases wordChar : isWordChar c with
      | false => rfl
      | true =>
        have noWordChar := apart c last wordChar d rfl
        rw [wordChars d List.mem_cons_self] at noWordChar
        cases noWordChar
  | unterminatedLiteral unclosed => exact .unterminatedLiteral unclosed

/-- The lexer reads the parts of a layout in front of any text, unless a word goes across. The
induction is on the parts. -/
theorem Layout.tokensFrom_parts_append {table : PatternTable} {offset : Nat}
    {parts : List Layout.Part} {tokens : List Spanned}
    (reads : Layout.ReadsParts table offset parts tokens)
    (apart : parts.IsChain Layout.Part.Apart) {rest : List Char}
    (boundary : Expression.Apart (parts.flatMap Layout.Part.chars) rest) :
    tokensFrom table offset (parts.flatMap Layout.Part.chars ++ rest) =
      (tokens ++ ·) <$>
        tokensFrom table (offset + byteLength (parts.flatMap Layout.Part.chars)) rest := by
  induction reads with
  | done offset => simp
  | @part offset part parts token tokens denotes others inductionHypothesis =>
    have remaining := inductionHypothesis apart.of_cons (List.flatMap_cons ▸ boundary).of_append
    have wordEnds : part.lexeme.isWord = true →
        ∀ c ∈ (part.gap ++ (parts.flatMap Layout.Part.chars ++ rest)).head?,
          isWordChar c = false := by
      intro isWord c first
      rw [← List.append_assoc] at first
      cases behind : part.gap ++ parts.flatMap Layout.Part.chars with
      | nil =>
        obtain ⟨last, isLast, wordChar⟩ := exists_last_of_word isWord
        rw [List.flatMap_cons, Layout.Part.chars, List.append_assoc, behind, List.append_nil]
          at boundary
        rw [behind] at first
        exact boundary last isLast wordChar c first
      | cons d others =>
        rw [behind] at first
        refine Layout.boundary_of_apart apart isWord c ?_
        rw [behind]
        exact first
    rw [List.flatMap_cons, Layout.Part.chars, List.append_assoc, List.append_assoc,
      tokensFrom_lexeme denotes offset _ wordEnds, tokensFrom_gap table _ part.blank]
    rw [Layout.Part.chars, byteLength_append, ← Nat.add_assoc] at remaining
    rw [remaining, byteLength_append, byteLength_append, ← Nat.add_assoc, ← Nat.add_assoc,
      Functor.map_map]
    rfl

/-- What the lexer reads on its own it reads in front of any text, unless a word goes across. -/
theorem tokensFrom_append {table : PatternTable} {offset : Nat} {before rest : List Char}
    {tokens : List Spanned} (accepted : tokensFrom table offset before = .ok tokens)
    (apart : Apart before rest) :
    tokensFrom table offset (before ++ rest) =
      (tokens ++ ·) <$> tokensFrom table (offset + byteLength before) rest := by
  obtain ⟨layout, rfl, reads⟩ := exists_layout_of_tokensFrom accepted
  rw [Layout.chars] at apart ⊢
  rw [List.append_assoc, tokensFrom_gap table offset layout.blank,
    Layout.tokensFrom_parts_append reads layout.apart apart.of_append, byteLength_append,
    Nat.add_assoc]

/-! ## The first place that cannot be read -/

/-- A text that the lexer stops in: it consists of a text that can be read and one that cannot, and
the tokens of the first are those that the lexer has read when it stops. -/
def Breaks (table : PatternTable) (offset : Nat) (input : List Char) (error : LexError) : Prop :=
  ∃ (before rest : List Char) (tokens : List Spanned), input = before ++ rest ∧
    tokensFrom table offset before = .ok tokens ∧ StopsAfter table offset input tokens error ∧
    Unreadable table (offset + byteLength before) before rest error

namespace Breaks

variable {table : PatternTable} {offset : Nat} {error : LexError}

/-- A text that cannot be read has nothing before the place. -/
theorem here {input : List Char} (failed : nextToken? table offset input = .error error)
    (unreadable : Unreadable table offset [] input error) : Breaks table offset input error :=
  ⟨[], input, [], rfl, by rw [tokensFrom], .here failed, unreadable⟩

/-- White space in front moves the place. -/
theorem indent {c : Char} {input : List Char} (blank : Unicode.isWhitespace c = true)
    (breaks : Breaks table (offset + c.utf8Size) input error) :
    Breaks table offset (c :: input) error := by
  obtain ⟨before, rest, tokens, rfl, accepted, stops, unreadable⟩ := breaks
  refine ⟨c :: before, rest, tokens, rfl, ?_, ?_, ?_⟩
  · rw [tokensFrom, if_pos blank]
    exact accepted
  · have skipped : nextToken? table offset (c :: (before ++ rest)) =
        nextToken? table (offset + c.utf8Size) (before ++ rest) := by
      rw [nextToken?, if_pos blank]
    cases stops with
    | here failed => exact .here (skipped.trans failed)
    | later read further => exact .later (skipped.trans read) further
  · rw [byteLength_cons, ← Nat.add_assoc]
    have apart : Apart [c] (before ++ rest) := by
      intro d last wordChar
      obtain rfl : c = d := Option.some.inj last
      rw [isWordChar_eq_false_of_isWhitespace blank] at wordChar
      cases wordChar
    exact unreadable.prepend apart

/-- A lexeme in front is read, and moves the place. -/
theorem lexeme {lexeme : Lexeme} {token : Token} {stop : Nat} {input : List Char}
    (denotes : lexeme.Denotes table token) (ends : stop = offset + byteLength lexeme.chars)
    (boundary : lexeme.isWord = true → ∀ c ∈ input.head?, isWordChar c = false)
    (read : nextToken? table offset (lexeme.chars ++ input) =
      .ok (some (⟨token, offset, stop⟩, input)))
    (refused : (do return Spanned.mk token offset stop :: (← tokensFrom table stop input)) =
      .error error)
    (remaining : tokensFrom table stop input = .error error → Breaks table stop input error) :
    Breaks table offset (lexeme.chars ++ input) error := by
  subst ends
  have behind : tokensFrom table (offset + byteLength lexeme.chars) input = .error error := by
    cases found : tokensFrom table (offset + byteLength lexeme.chars) input with
    | error => rw [found] at refused; cases refused; rfl
    | ok tokens => rw [found] at refused; cases refused
  obtain ⟨before, rest, tokens, rfl, accepted, stops, unreadable⟩ := remaining behind
  refine ⟨lexeme.chars ++ before, rest, _ :: tokens, (List.append_assoc _ _ _).symm, ?_,
    .later read stops, ?_⟩
  · have wordEnds (isWord : lexeme.isWord = true) : ∀ c ∈ before.head?, isWordChar c = false := by
      intro c first
      refine boundary isWord c ?_
      rw [List.head?_append, Option.mem_def.mp first]
      rfl
    rw [tokensFrom_lexeme denotes offset before wordEnds, accepted]
    rfl
  · rw [byteLength_append, ← Nat.add_assoc]
    exact unreadable.prepend (apart_lexeme boundary)

end Breaks

/-- A text that the lexer refuses breaks there. The induction follows the lexer. -/
theorem breaks_of_tokensFrom {table : PatternTable} {offset : Nat} {input : List Char}
    {error : LexError} (refused : tokensFrom table offset input = .error error) :
    Breaks table offset input error := by
  fun_induction tokensFrom table offset input with
  | case1 => cases refused
  | case2 offset c rest next blank =>
    rename_i inductionHypothesis
    exact (inductionHypothesis refused).indent blank
  | case3 =>
    rename_i inductionHypothesis
    exact Breaks.lexeme .opening rfl (absurd · Bool.false_ne_true) rfl refused inductionHypothesis
  | case4 =>
    rename_i inductionHypothesis
    exact Breaks.lexeme .closing rfl (absurd · Bool.false_ne_true) rfl refused inductionHypothesis
  | case5 offset rest absent =>
    cases refused
    exact Breaks.here (nextToken?_unterminated absent)
      (.unterminatedLiteral ((literal?_eq_none_iff rest).mp absent))
  | case6 offset rest text read after found =>
    rename_i inductionHypothesis
    obtain ⟨units, rfl, rfl⟩ := exists_units_of_literal? found
    have written : (Lexeme.literal units).chars ++ after = '"' :: rest := by
      rw [Lexeme.chars, List.cons_append, List.cons_append, literal?_append found]
    have ends : offset + '"'.utf8Size + byteLength (units.flatMap LiteralUnit.chars ++ ['"']) =
        offset + byteLength (Lexeme.literal units).chars := by
      simp [Lexeme.chars, Nat.add_assoc]
    rw [← written]
    refine Breaks.lexeme (.literal units) ends (absurd · Bool.false_ne_true) ?_ refused
      inductionHypothesis
    rw [written]
    exact nextToken?_literal found
  | case7 offset c rest noBlank noOpening noClosing noQuote wordChar word undenoted =>
    cases refused
    obtain ⟨noOperator, undefined⟩ := (wordToken?_eq_none_iff table word).mp undenoted
    have unreadable : Unreadable table offset [] (word ++ rest.dropWhile isWordChar) _ :=
      .unknownWord (List.cons_ne_nil _ _) (isWordChar_of_mem_word wordChar rest) (by simp)
        (isWordChar_head_dropWhile rest) noOperator undefined
    rw [List.cons_append, List.takeWhile_append_dropWhile] at unreadable
    exact Breaks.here
      (nextToken?_unknown noBlank noOpening noClosing noQuote wordChar undenoted) unreadable
  | case8 offset c rest noBlank noOpening noClosing noQuote wordChar word token denoted =>
    rename_i inductionHypothesis
    have wordChars := isWordChar_of_mem_word wordChar rest
    have denotes := (wordToken?_eq_some_iff table (List.cons_ne_nil _ _) wordChars token).mp denoted
    have written : word ++ rest.dropWhile isWordChar = c :: rest := by
      rw [List.cons_append, List.takeWhile_append_dropWhile]
    rw [← written]
    refine Breaks.lexeme denotes rfl (fun _ => isWordChar_head_dropWhile rest) ?_ refused
      inductionHypothesis
    rw [Lexeme.chars, written]
    exact nextToken?_word noBlank noOpening noClosing noQuote wordChar denoted
  | case9 offset c rest noBlank noOpening noClosing noQuote noWordChar =>
    cases refused
    exact Breaks.here (nextToken?_unexpected noBlank noOpening noClosing noQuote noWordChar)
      (.unexpectedChar (Bool.not_eq_true _ ▸ noBlank) noOpening noClosing noQuote
        (Bool.not_eq_true _ ▸ noWordChar))

/-- The lexer refuses a text exactly if the reading of tokens stops with the error. The tokens read
up to there are those of the characters before a place, which can be read on their own, and at this
place begins what the error reports, by the byte at which it begins. If, the other way round,
characters that can be read are followed by what cannot, then the lexer refuses the text and reports
this place. Of the table nothing is asked. -/
theorem tokenize_refuses_first (expression : String) (table : PatternTable) (error : LexError) :
    (tokenize expression table = .error error ↔
      ∃ tokens, StopsAfter table 0 expression.toList tokens error) ∧
    (∀ tokens, StopsAfter table 0 expression.toList tokens error →
      ∃ before rest : List Char, expression.toList = before ++ rest ∧ rest ≠ [] ∧
        error.position = byteLength before ∧
        tokenize (String.ofList before) table = .ok tokens ∧
        Unreadable table error.position before rest error) ∧
    ∀ (before rest : List Char) (tokens : List Spanned), expression.toList = before ++ rest →
      tokenize (String.ofList before) table = .ok tokens →
      Unreadable table (byteLength before) before rest error →
      tokenize expression table = .error error := by
  refine ⟨⟨?_, ?_⟩, ?_, ?_⟩
  · intro refused
    obtain ⟨_, _, tokens, _, _, stops, _⟩ := breaks_of_tokensFrom refused
    exact ⟨tokens, stops⟩
  · rintro ⟨tokens, stops⟩
    exact stops.tokensFrom_eq
  · intro tokens stops
    obtain ⟨before, rest, read, same, accepted, too, unreadable⟩ :=
      breaks_of_tokensFrom stops.tokensFrom_eq
    obtain rfl := stops.tokens_unique too
    rw [Nat.zero_add] at unreadable
    obtain ⟨nonempty, position⟩ : rest ≠ [] ∧ error.position = byteLength before := by
      cases unreadable with
      | unexpectedChar => exact ⟨List.cons_ne_nil _ _, rfl⟩
      | unknownWord nonempty => exact ⟨List.append_ne_nil_of_left_ne_nil nonempty _, rfl⟩
      | unterminatedLiteral => exact ⟨List.cons_ne_nil _ _, rfl⟩
    refine ⟨before, rest, same, nonempty, position, ?_, position ▸ unreadable⟩
    rw [tokenize, String.toList_ofList]
    exact accepted
  · intro before rest tokens same accepted unreadable
    rw [tokenize, String.toList_ofList] at accepted
    rw [tokenize, same, tokensFrom_append accepted unreadable.apart, Nat.zero_add,
      tokensFrom_eq_error_of_unreadable unreadable]
    rfl

end LinkSieve.Expression
