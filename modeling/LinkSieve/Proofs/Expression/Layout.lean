import Mathlib.Data.List.Chain
import LinkSieve.Proofs.Expression.Lexeme
/-!
# Layouts

A layout is a text as it is cut up for tokens: a gap, and then lexemes, each with a gap behind it.
Two words that follow each other are kept apart by their gap. A list of tokens reads a layout if
it has the token of each lexeme, at the bytes where the lexeme stands.

The lexer gives a list of tokens for a text exactly if the text has a layout which that list
reads. So it passes over nothing but white space, and it takes the longest run of word characters
that it can.
-/

namespace LinkSieve.Expression

open LinkSieve.Text

/-- A lexeme with the gap behind it. -/
structure Layout.Part where
  lexeme : Lexeme
  gap : List Char
  blank : ∀ c ∈ gap, Unicode.isWhitespace c = true

namespace Layout.Part

/-- The part as it is written. -/
def chars (part : Part) : List Char :=
  part.lexeme.chars ++ part.gap

/-- Words in neighbouring parts have something between them. -/
def Apart (left right : Part) : Prop :=
  left.lexeme.isWord = true → right.lexeme.isWord = true → left.gap ≠ []

end Layout.Part

/-- A text cut into lexemes and gaps. -/
structure Layout where
  lead : List Char
  blank : ∀ c ∈ lead, Unicode.isWhitespace c = true
  parts : List Layout.Part
  apart : parts.IsChain Layout.Part.Apart

namespace Layout

/-- The text that is laid out. -/
def chars (layout : Layout) : List Char :=
  layout.lead ++ layout.parts.flatMap Part.chars

/-- Tokens for parts that begin at byte `offset`, one for each lexeme. -/
inductive ReadsParts (table : PatternTable) : Nat → List Part → List Spanned → Prop where
  | done (offset : Nat) : ReadsParts table offset [] []
  | part {offset : Nat} {part : Part} {parts : List Part} {token : Token} {tokens : List Spanned}
      (denotes : part.lexeme.Denotes table token)
      (others : ReadsParts table (offset + byteLength part.chars) parts tokens) :
      ReadsParts table offset (part :: parts)
        (⟨token, offset, offset + byteLength part.lexeme.chars⟩ :: tokens)

/-- Tokens for the lexemes of a layout that begins at byte `offset`. -/
def Reads (table : PatternTable) (offset : Nat) (layout : Layout) (tokens : List Spanned) : Prop :=
  ReadsParts table (offset + byteLength layout.lead) layout.parts tokens

/-- A lexeme that is no word does not begin with a word character. -/
theorem isWordChar_head_lexeme {lexeme : Lexeme} (noWord : lexeme.isWord = false)
    (rest : List Char) :
    ∀ c ∈ (lexeme.chars ++ rest).head?, isWordChar c = false := by
  intro c first
  cases lexeme with
  | opening => cases first; rfl
  | closing => cases first; rfl
  | literal units => cases first; rfl
  | word chars nonempty wordChars => cases noWord

/-- A word begins with a word character. -/
theorem exists_head_of_word {lexeme : Lexeme} (isWord : lexeme.isWord = true) :
    ∃ c, isWordChar c = true ∧ ∀ rest, c ∈ (lexeme.chars ++ rest).head? := by
  cases lexeme with
  | word chars nonempty wordChars =>
    obtain ⟨c, others, rfl⟩ := List.exists_cons_of_ne_nil nonempty
    exact ⟨c, wordChars c List.mem_cons_self, fun _ => rfl⟩
  | _ => cases isWord

/-- A gap that is not empty does not begin with a word character. -/
theorem isWordChar_head_gap {gap : List Char} (blank : ∀ c ∈ gap, Unicode.isWhitespace c = true)
    (nonempty : gap ≠ []) (rest : List Char) :
    ∀ c ∈ (gap ++ rest).head?, isWordChar c = false := by
  obtain ⟨first, others, rfl⟩ := List.exists_cons_of_ne_nil nonempty
  rintro c same
  cases same
  exact isWordChar_eq_false_of_isWhitespace (blank first List.mem_cons_self)

/-- No word character follows the word of a part, because the gap or the next lexeme comes
between. -/
theorem boundary_of_apart {part : Part} {parts : List Part}
    (apart : (part :: parts).IsChain Part.Apart)
    (isWord : part.lexeme.isWord = true) :
    ∀ c ∈ (part.gap ++ parts.flatMap Part.chars).head?, isWordChar c = false := by
  by_cases adjacent : part.gap = []
  · rw [adjacent, List.nil_append]
    cases parts with
    | nil => simp
    | cons next others =>
      have noWord : next.lexeme.isWord = false := by
        cases nextIsWord : next.lexeme.isWord with
        | false => rfl
        | true => exact absurd adjacent ((List.isChain_cons_cons.mp apart).1 isWord nextIsWord)
      rw [List.flatMap_cons, Part.chars, List.append_assoc]
      exact isWordChar_head_lexeme noWord _
  · exact isWordChar_head_gap part.blank adjacent _

/-- The lexer reads every layout. The induction is on its parts. -/
theorem tokensFrom_parts {table : PatternTable} {offset : Nat} {parts : List Part}
    {tokens : List Spanned} (reads : ReadsParts table offset parts tokens)
    (apart : parts.IsChain Part.Apart) :
    tokensFrom table offset (parts.flatMap Part.chars) = .ok tokens := by
  induction reads with
  | done offset =>
    rw [List.flatMap_nil, tokensFrom]
  | @part offset part parts token tokens denotes others inductionHypothesis =>
    have remaining := inductionHypothesis apart.of_cons
    rw [Part.chars, byteLength_append, ← Nat.add_assoc] at remaining
    rw [List.flatMap_cons, Part.chars, List.append_assoc,
      tokensFrom_lexeme denotes offset _ (boundary_of_apart apart),
      tokensFrom_gap table _ part.blank, remaining]
    rfl

/-- The empty layout. -/
def empty : Layout where
  lead := []
  blank := by simp
  parts := []
  apart := .nil

/-- A layout with one more white space character before it. -/
def indent (c : Char) (blank : Unicode.isWhitespace c = true) (layout : Layout) : Layout where
  lead := c :: layout.lead
  blank := List.forall_mem_cons.mpr ⟨blank, layout.blank⟩
  parts := layout.parts
  apart := layout.apart

/-- A layout with one more lexeme before it. If the lexeme is a word, then the layout must not
begin with a word character. -/
def push (lexeme : Lexeme) (layout : Layout)
    (boundary : lexeme.isWord = true → ∀ c ∈ layout.chars.head?, isWordChar c = false) :
    Layout where
  lead := []
  blank := by simp
  parts := ⟨lexeme, layout.lead, layout.blank⟩ :: layout.parts
  apart := by
    refine layout.apart.cons ?_
    intro next first isWord nextIsWord adjacent
    obtain ⟨c, wordChar, begins⟩ := exists_head_of_word nextIsWord
    obtain ⟨others, same⟩ := List.head?_eq_some_iff.mp first
    have noWordChar : isWordChar c = false := by
      refine boundary isWord c ?_
      have noGap : layout.lead = [] := adjacent
      rw [chars, noGap, same, List.nil_append, List.flatMap_cons, Part.chars, List.append_assoc]
      exact begins _
    rw [wordChar] at noWordChar
    cases noWordChar

/-- A text with a lexeme before it has a layout if the text has one. The lexer gives the token of
the lexeme and then what it gives for the text. -/
theorem exists_layout_of_lexeme {table : PatternTable} {lexeme : Lexeme} {token : Token}
    {offset stop : Nat} {rest : List Char} {tokens : List Spanned}
    (denotes : lexeme.Denotes table token) (ends : stop = offset + byteLength lexeme.chars)
    (boundary : lexeme.isWord = true → ∀ c ∈ rest.head?, isWordChar c = false)
    (accepted : (do return Spanned.mk token offset stop :: (← tokensFrom table stop rest)) =
      .ok tokens)
    (remaining : ∀ {others : List Spanned}, tokensFrom table stop rest = .ok others →
      ∃ layout : Layout, layout.chars = rest ∧ layout.Reads table stop others) :
    ∃ layout : Layout, layout.chars = lexeme.chars ++ rest ∧ layout.Reads table offset tokens := by
  subst ends
  cases found : tokensFrom table (offset + byteLength lexeme.chars) rest with
  | error => rw [found] at accepted; cases accepted
  | ok others =>
    rw [found] at accepted
    cases accepted
    obtain ⟨layout, rfl, reads⟩ := remaining found
    refine ⟨layout.push lexeme boundary, ?_, ?_⟩
    · simp [push, chars, Part.chars]
    · let part : Part := ⟨lexeme, layout.lead, layout.blank⟩
      have others : ReadsParts table (offset + byteLength part.chars) layout.parts others := by
        rw [Part.chars, byteLength_append, ← Nat.add_assoc]
        exact reads
      exact ReadsParts.part denotes others

end Layout

/-- What the lexer reads is a layout of the text. The induction follows the lexer: white space
makes the first gap longer, and a lexeme makes the gap behind it that of a part. -/
theorem exists_layout_of_tokensFrom {table : PatternTable} {offset : Nat} {input : List Char}
    {tokens : List Spanned} (accepted : tokensFrom table offset input = .ok tokens) :
    ∃ layout : Layout, layout.chars = input ∧ layout.Reads table offset tokens := by
  fun_induction tokensFrom table offset input generalizing tokens with
  | case1 =>
    cases accepted
    exact ⟨.empty, rfl, .done _⟩
  | case2 offset c rest next blank =>
    rename_i inductionHypothesis
    obtain ⟨layout, rfl, reads⟩ := inductionHypothesis accepted
    refine ⟨layout.indent c blank, rfl, ?_⟩
    unfold Layout.Reads Layout.indent
    rw [byteLength_cons, ← Nat.add_assoc]
    exact reads
  | case3 =>
    rename_i inductionHypothesis
    exact Layout.exists_layout_of_lexeme .opening rfl (absurd · Bool.false_ne_true) accepted
      inductionHypothesis
  | case4 =>
    rename_i inductionHypothesis
    exact Layout.exists_layout_of_lexeme .closing rfl (absurd · Bool.false_ne_true) accepted
      inductionHypothesis
  | case5 => cases accepted
  | case6 offset rest text read after found =>
    rename_i inductionHypothesis
    obtain ⟨units, rfl, rfl⟩ := exists_units_of_literal? found
    have ends : offset + '"'.utf8Size + byteLength (units.flatMap LiteralUnit.chars ++ ['"']) =
        offset + byteLength (Lexeme.literal units).chars := by
      simp [Lexeme.chars, Nat.add_assoc]
    have laidOut := Layout.exists_layout_of_lexeme (.literal units) ends
      (absurd · Bool.false_ne_true) accepted inductionHypothesis
    rw [Lexeme.chars, List.cons_append, List.cons_append, literal?_append found] at laidOut
    exact laidOut
  | case7 => cases accepted
  | case8 offset c rest noBlank noOpening noClosing noQuote wordChar word token denoted =>
    rename_i inductionHypothesis
    have wordChars := isWordChar_of_mem_word wordChar rest
    have denotes := (wordToken?_eq_some_iff table (List.cons_ne_nil _ _) wordChars token).mp denoted
    have laidOut := Layout.exists_layout_of_lexeme denotes rfl
      (fun _ => isWordChar_head_dropWhile rest) accepted inductionHypothesis
    rw [Lexeme.chars, List.cons_append, List.takeWhile_append_dropWhile] at laidOut
    exact laidOut
  | case9 => cases accepted

/-- The lexer accepts a text exactly if the text can be laid out, and the tokens that it gives are
those which read the layout. Each token has the bytes of its lexeme as its range. -/
theorem tokenize_eq_ok_iff_layout (expression : String) (table : PatternTable)
    (tokens : List Spanned) :
    tokenize expression table = .ok tokens ↔
      ∃ layout : Layout, layout.chars = expression.toList ∧ layout.Reads table 0 tokens := by
  constructor
  · exact exists_layout_of_tokensFrom
  · rintro ⟨layout, same, reads⟩
    rw [tokenize, ← same, Layout.chars, tokensFrom_gap table 0 layout.blank]
    exact Layout.tokensFrom_parts reads layout.apart

end LinkSieve.Expression
