import LinkSieve.Proofs.Expression.Layout
import LinkSieve.Proofs.Expression.PatternTable
/-!
# Names

A table accepts the names that an expression can use. Accepted names are stated by what they are made
of: one or more word characters that spell no operator. Each of them is read as one word, which stands
for its pattern whatever else the table has.

No other text does that with every pattern. Where a text is a single token from its first byte to its
last, it is a single lexeme. A literal is one as well, but the text that it stands for is shorter than
the literal itself, so it stands for one pattern only.
-/

namespace LinkSieve.Expression

open LinkSieve.Text

/-- A name is accepted if it is a word and no operator. -/
theorem validateName_eq_ok_iff (name : String) :
    validateName name = .ok () ↔ name.toList ≠ [] ∧ (∀ c ∈ name.toList, isWordChar c = true) ∧
      ∀ symbol, ¬Spells name.toList symbol := by
  rw [← ofWord?_eq_none_iff, ← List.all_eq_true, validateName]
  cases Operator.ofWord? name.toList with
  | none => cases empty : name.toList <;> cases wordChars : name.toList.all isWordChar <;> simp_all
  | some symbol => split <;> simp

/-- An accepted name that a table has is read as its pattern, from the first byte of the name to the
last. -/
theorem tokenize_of_validateName {table : PatternTable} {name pattern : String}
    (accepted : validateName name = .ok ()) (defined : table.get? name = some pattern) :
    tokenize name table = .ok [⟨.pattern pattern, 0, byteLength name.toList⟩] := by
  obtain ⟨nonempty, wordChars, noOperator⟩ := (validateName_eq_ok_iff name).mp accepted
  have denotes : (Lexeme.word name.toList nonempty wordChars).Denotes table (.pattern pattern) :=
    .name noOperator (by rwa [String.ofList_toList])
  have read := tokensFrom_lexeme denotes 0 [] (by simp)
  rw [List.append_nil, tokensFrom, Nat.zero_add] at read
  exact read

/-- A text of no bytes is empty. -/
theorem eq_nil_of_byteLength_eq_zero {text : List Char} (noBytes : byteLength text = 0) : text = [] := by
  cases text with
  | nil => rfl
  | cons c rest =>
    have positive := c.utf8Size_pos
    rw [byteLength_cons] at noBytes
    omega

/-- Where a single token reads parts, there is one part, and the token has the place of its lexeme. -/
theorem Layout.exists_part_of_readsParts {table : PatternTable} {offset : Nat}
    {parts : List Layout.Part} {spanned : Spanned}
    (reads : Layout.ReadsParts table offset parts [spanned]) :
    ∃ part, parts = [part] ∧ part.lexeme.Denotes table spanned.token ∧ spanned.offset = offset ∧
      spanned.stop = offset + byteLength part.lexeme.chars := by
  cases reads with
  | part denotes others =>
    cases others
    exact ⟨_, rfl, denotes, rfl, rfl⟩

/-- A text that is read as a single token, from its first byte to its last, is a lexeme. -/
theorem exists_lexeme_of_tokenize {text : String} {table : PatternTable} {token : Token}
    (read : tokenize text table = .ok [⟨token, 0, byteLength text.toList⟩]) :
    ∃ lexeme : Lexeme, lexeme.chars = text.toList ∧ lexeme.Denotes table token := by
  obtain ⟨⟨lead, blank, parts, apart⟩, same, reads⟩ := exists_layout_of_tokensFrom read
  obtain ⟨part, rfl, denotes, start, stop⟩ := Layout.exists_part_of_readsParts reads
  have whole : lead ++ (part.lexeme.chars ++ part.gap) = text.toList := by
    simpa [Layout.chars, Layout.Part.chars] using same
  have bytes := congrArg byteLength whole
  rw [byteLength_append, byteLength_append] at bytes
  dsimp only at start stop
  -- The token takes all bytes, so that none are left for the gaps.
  have noLead : lead = [] := eq_nil_of_byteLength_eq_zero (by omega)
  have noGap : part.gap = [] := eq_nil_of_byteLength_eq_zero (by omega)
  rw [noLead, noGap, List.nil_append, List.append_nil] at whole
  exact ⟨part.lexeme, whole, denotes⟩

/-- The text that the units of a literal stand for is no longer than they are. -/
theorem length_text_le (units : List LiteralUnit) :
    (units.flatMap LiteralUnit.text).length ≤ (units.flatMap LiteralUnit.chars).length := by
  induction units with
  | nil => exact Nat.le_refl 0
  | cons unit units inductionHypothesis =>
    have one : unit.text.length ≤ unit.chars.length := by
      cases unit with
      | pair c =>
        rw [LiteralUnit.text_pair, unescape]
        split <;> simp [LiteralUnit.chars]
      | plain c => exact Nat.le_refl 1
    rw [List.flatMap_cons, List.flatMap_cons, List.length_append, List.length_append]
    omega

/-- A lexeme that stands for its own text as a pattern is an accepted name. -/
theorem validateName_of_denotes {table : PatternTable} {lexeme : Lexeme} {name : String}
    (written : lexeme.chars = name.toList) (denotes : lexeme.Denotes table (.pattern name)) :
    validateName name = .ok () := by
  generalize same : Token.pattern name = token at denotes
  cases denotes with
  | opening => cases same
  | closing => cases same
  | operator spells => cases same
  | literal units =>
    have shorter := length_text_le units
    have sameLength := congrArg List.length written
    rw [Token.pattern.inj same, String.toList_ofList] at sameLength
    simp only [Lexeme.chars, List.length_cons, List.length_append] at sameLength
    omega
  | @name chars nonempty wordChars _ noOperator defined =>
    obtain rfl : chars = name.toList := written
    exact (validateName_eq_ok_iff name).mpr ⟨nonempty, wordChars, noOperator⟩

/-- The names that a table accepts are the words that an expression can use. A name is accepted exactly
if the lexer, with a table that has this name only, reads it as one token, which has all its bytes and
is the pattern of the name, whatever that pattern is. -/
theorem validateName_iff_tokenize (name : String) :
    validateName name = .ok () ↔ ∀ pattern,
      tokenize name (PatternTable.empty.insert name pattern) =
        .ok [⟨.pattern pattern, 0, byteLength name.toList⟩] := by
  constructor
  · intro accepted pattern
    exact tokenize_of_validateName accepted (by rw [PatternTable.get?_insert, if_pos rfl])
  · intro read
    obtain ⟨lexeme, written, denotes⟩ := exists_lexeme_of_tokenize (read name)
    exact validateName_of_denotes written denotes

end LinkSieve.Expression
