import LinkSieve.Proofs.Expression.Acceptance
import LinkSieve.Proofs.Expression.Lexeme
/-!
# The canonical form read back

The canonical form of a formula is read as the tokens of a derivation with that formula. So the
parser has only the choice between the formula and a refusal of what is empty or too deep in it.
The parentheses of the form do not matter for that: where they and the prefix NOTs are open around
a token, the formula has as many levels above the leaf and one more for the leaf itself.
-/

namespace LinkSieve.Expression

open LinkSieve.Text

/-- The lexer reads a text that begins at byte `offset` as some tokens and goes on behind it,
whatever follows. -/
def Emits (table : PatternTable) (offset : Nat) (text : List Char) (tokens : List Spanned) : Prop :=
  ∀ rest, tokensFrom table offset (text ++ rest) =
    (tokens ++ ·) <$> tokensFrom table (offset + byteLength text) rest

namespace Emits

variable {table : PatternTable} {offset : Nat}

/-- Two texts one after the other are read as the tokens of the first and then those of the
second. -/
theorem append {first second : List Char} {firstTokens secondTokens : List Spanned}
    (left : Emits table offset first firstTokens)
    (right : Emits table (offset + byteLength first) second secondTokens) :
    Emits table offset (first ++ second) (firstTokens ++ secondTokens) := by
  intro rest
  rw [List.append_assoc, left, right, byteLength_append, Nat.add_assoc, Functor.map_map]
  simp only [List.append_assoc]

/-- A gap is read as no token. -/
theorem gap {chars : List Char} (blank : ∀ c ∈ chars, Unicode.isWhitespace c = true) :
    Emits table offset chars [] := by
  intro rest
  rw [tokensFrom_gap table offset blank]
  simp

/-- A lexeme that is no word is read as the token that it denotes. -/
theorem lexeme {lexeme : Lexeme} {token : Token} (denotes : lexeme.Denotes table token)
    (noWord : lexeme.isWord = false) :
    ∃ span : Span, Emits table offset lexeme.chars [span.holds token] := by
  refine ⟨⟨offset, offset + byteLength lexeme.chars⟩, ?_⟩
  intro rest
  rw [tokensFrom_lexeme denotes offset rest (by simp [noWord])]
  rfl

end Emits

/-- A space is a gap. -/
theorem isWhitespace_space : ∀ c ∈ [' '], Unicode.isWhitespace c = true := by
  intro c member
  rw [List.mem_singleton.mp member]
  rfl

/-- The name of an operator between spaces is read as that operator. The first space is a gap, and
the second one ends the word. -/
theorem emits_operator (table : PatternTable) (offset : Nat) (symbol : Operator) :
    ∃ span : Span,
      Emits table offset (symbol.name.toList ++ [' ']) [span.holds (.operator symbol)] := by
  have nonempty : symbol.name.toList ≠ [] := by cases symbol <;> decide
  have wordChars : ∀ c ∈ symbol.name.toList, isWordChar c = true := by
    rw [← List.all_eq_true]
    cases symbol <;> rfl
  have spells : Spells symbol.name.toList symbol := by
    rw [Spells, List.forall₂_same]
    exact fun letter _ => .inl rfl
  have denotes : (Lexeme.word _ nonempty wordChars).Denotes table (.operator symbol) :=
    .operator spells
  refine ⟨⟨offset, offset + byteLength symbol.name.toList⟩, ?_⟩
  intro rest
  have boundary : ∀ c ∈ ([' '] ++ rest).head?, isWordChar c = false := by
    rintro c ⟨⟩
    rfl
  have name := tokensFrom_lexeme denotes offset ([' '] ++ rest) (fun _ => boundary)
  rw [Lexeme.chars, tokensFrom_gap table _ isWhitespace_space, Nat.add_assoc,
    ← byteLength_append] at name
  rw [List.append_assoc, name]
  rfl

/-- The units by which a pattern text is quoted. -/
def quotedUnit (c : Char) : LiteralUnit :=
  if special : c = '"' ∨ c = '\\' then .pair c
  else
    .plain c (fun isQuote => special (.inl isQuote)) (fun isBackslash => special (.inr isBackslash))

/-- A quoted character is written with its escape. -/
theorem chars_quotedUnit (c : Char) : (quotedUnit c).chars = Formula.escape c := by
  unfold quotedUnit Formula.escape
  split <;> rfl

/-- A quoted character stands for itself. -/
theorem text_quotedUnit (c : Char) : (quotedUnit c).text = [c] := by
  unfold quotedUnit
  split
  next special => rw [LiteralUnit.text_pair, unescape, if_pos special]
  next => rfl

/-- A pattern text as a literal. -/
def quotedLiteral (text : String) : Lexeme :=
  .literal (text.toList.map quotedUnit)

/-- The literal is written as a formula writes a pattern. -/
theorem chars_quotedLiteral (text : String) :
    (quotedLiteral text).chars = Formula.quote text.toList := by
  simp [quotedLiteral, Lexeme.chars, Formula.quote, List.flatMap_map, chars_quotedUnit]

/-- The literal denotes the text, whatever the table has. -/
theorem denotes_quotedLiteral (table : PatternTable) (text : String) :
    (quotedLiteral text).Denotes table (.pattern text) := by
  have meant : String.ofList ((text.toList.map quotedUnit).flatMap LiteralUnit.text) = text := by
    simp [List.flatMap_map, text_quotedUnit]
  have denotes : (quotedLiteral text).Denotes table _ := .literal (text.toList.map quotedUnit)
  rw [meant] at denotes
  exact denotes

/-- A quoted pattern text is read as that pattern. -/
theorem emits_quote (table : PatternTable) (offset : Nat) (text : String) :
    ∃ span : Span, Emits table offset (Formula.quote text.toList) [span.holds (.pattern text)] := by
  rw [← chars_quotedLiteral]
  exact Emits.lexeme (denotes_quotedLiteral table text) rfl

/-- Operands in parentheses with an operator between them are read one after the other. -/
theorem emits_group {table : PatternTable} {offset : Nat} (symbol : Operator)
    {left right : List Char} {leftTokens rightTokens : List Spanned}
    (leftEmits : Emits table (offset + byteLength ['(']) left leftTokens)
    (rightEmits :
      Emits table (offset + byteLength ('(' :: left ++ ' ' :: (symbol.name.toList ++ [' ']))) right
        rightTokens) :
    ∃ opening span closing : Span,
      Emits table offset ('(' :: left ++ ' ' :: (symbol.name.toList ++ [' ']) ++ right ++ [')'])
        (opening.holds .opening :: (leftTokens ++ span.holds (.operator symbol) :: rightTokens) ++
          [closing.holds .closing]) := by
  have gap (offset : Nat) : Emits table offset [' '] [] := Emits.gap isWhitespace_space
  obtain ⟨opening, begins⟩ : ∃ span : Span, Emits table offset ['('] [span.holds .opening] :=
    Emits.lexeme .opening rfl
  obtain ⟨span, name⟩ :=
    emits_operator table (offset + byteLength ('(' :: left) + byteLength [' ']) symbol
  have operands := ((begins.append leftEmits).append ((gap _).append name)).append rightEmits
  obtain ⟨closing, ends⟩ := Emits.lexeme Lexeme.Denotes.closing rfl
  refine ⟨opening, span, closing, ?_⟩
  simpa [Lexeme.chars] using operands.append ends

/-- The canonical form is read as the tokens of a derivation with the formula. The induction is on
the formula; a binary operator becomes a group, and its operands are groups, patterns or
negations. -/
theorem exists_derivation_of_canonical (table : PatternTable) (formula : Formula String)
    (offset : Nat) :
    ∃ derivation : Derivation .negation, derivation.formula = formula ∧
      derivation.nesting + 1 = formula.depth ∧
      Emits table offset formula.canonical derivation.tokens := by
  induction formula generalizing offset with
  | leaf pattern =>
    obtain ⟨span, emits⟩ := emits_quote table offset pattern
    exact ⟨.primary (.pattern pattern span), rfl, rfl, emits⟩
  | and left right leftHypothesis rightHypothesis =>
    obtain ⟨leftOperand, rfl, leftNesting, leftEmits⟩ := leftHypothesis (offset + byteLength ['('])
    obtain ⟨rightOperand, rfl, rightNesting, rightEmits⟩ := rightHypothesis _
    obtain ⟨opening, span, closing, emits⟩ := emits_group .and leftEmits rightEmits
    let inner : Derivation .conjunction := .and (.negation leftOperand) span rightOperand
    refine ⟨.primary (.group opening closing (.conjunction inner)), rfl, ?_, emits⟩
    simp only [inner, Derivation.nesting, Formula.depth]
    omega
  | or left right leftHypothesis rightHypothesis =>
    obtain ⟨leftOperand, rfl, leftNesting, leftEmits⟩ := leftHypothesis (offset + byteLength ['('])
    obtain ⟨rightOperand, rfl, rightNesting, rightEmits⟩ := rightHypothesis _
    obtain ⟨opening, span, closing, emits⟩ := emits_group .or leftEmits rightEmits
    let inner : Derivation .expression :=
      .or (.conjunction (.negation leftOperand)) span (.negation rightOperand)
    refine ⟨.primary (.group opening closing inner), rfl, ?_, emits⟩
    simp only [inner, Derivation.nesting, Formula.depth]
    omega
  | not operand inductionHypothesis =>
    obtain ⟨span, name⟩ := emits_operator table offset .not
    obtain ⟨derivation, rfl, nesting, emits⟩ := inductionHypothesis _
    refine ⟨.not span derivation, rfl, ?_, name.append emits⟩
    simp only [Derivation.nesting, Formula.depth]
    omega

/-- The canonical form of a formula can always be read. It is parsed into the formula exactly if
the formula is not too deep and none of its leaves is empty, and otherwise it is refused for one
of these reasons. So it is never parsed into another formula, and what the parser has once given
comes back from its canonical form. No table of patterns has a part in this. -/
theorem parse_tokenize_render (formula : Formula String) (table : PatternTable) :
    ∃ tokens, tokenize formula.render table = .ok tokens ∧
      (parse tokens = .ok formula ↔ formula.depth ≤ maxDepth ∧ ∀ text ∈ formula.leaves, text ≠ "") ∧
      (parse tokens ≠ .ok formula → ∃ error, parse tokens = .error error ∧
        (error.reason = .emptyPattern ∨ error.reason = .tooDeep)) ∧
      ∀ source, parse source = .ok formula → parse tokens = .ok formula := by
  obtain ⟨derivation, rfl, nesting, emits⟩ := exists_derivation_of_canonical table formula 0
  let whole : Derivation .expression := .conjunction (.negation derivation)
  have read : tokenize derivation.formula.render table = .ok whole.tokens := by
    have complete := emits []
    rw [List.append_nil, tokensFrom] at complete
    rw [tokenize, Formula.render, String.toList_ofList, complete]
    simp [whole, Derivation.tokens]
  have fits (depth : derivation.formula.depth ≤ maxDepth)
      (leaves : ∀ text ∈ derivation.formula.leaves, text ≠ "") : whole.Fits maxDepth 0 := by
    refine ⟨leaves, depth, ?_⟩
    simp only [whole, Derivation.nesting]
    omega
  have admissible {source : List Spanned} (parsed : parse source = .ok derivation.formula) :
      derivation.formula.depth ≤ maxDepth ∧ ∀ text ∈ derivation.formula.leaves, text ≠ "" := by
    obtain ⟨other, _, same, otherFits⟩ := Derivation.exists_of_parseWithin_eq_ok (by decide) parsed
    exact ⟨same ▸ otherFits.depth, same ▸ otherFits.leaves⟩
  have agrees := Derivation.parseWithin_agrees maxDepth whole
  refine ⟨whole.tokens, read, ⟨admissible, ?_⟩, ?_, ?_⟩
  · rintro ⟨depth, leaves⟩
    exact agrees.eq_expected (fits depth leaves)
  · intro different
    rcases agrees with same | ⟨⟨position, reason, refused, cause⟩, _⟩
    · exact absurd same different
    · exact ⟨⟨position, reason⟩, refused, cause⟩
  · intro source parsed
    obtain ⟨depth, leaves⟩ := admissible parsed
    exact agrees.eq_expected (fits depth leaves)

end LinkSieve.Expression
