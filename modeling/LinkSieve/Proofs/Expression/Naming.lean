import LinkSieve.Proofs.Expression.Canonical
import LinkSieve.Proofs.Expression.Position
/-!
# Names in place of quoted patterns

A name of a pattern table is short for its pattern: with the pattern written in its place, between
quotes and with escapes, an expression is read as the same tokens, and no table is needed any more.
Only names outside literals are replaced, and only words that spell no operator are names.
-/

namespace LinkSieve.Expression

open LinkSieve.Text

/-- A word with the pattern that it names, as a quoted literal, in its place. A word that spells an
operator names nothing. -/
def quoteName (table : PatternTable) (word : List Char) : List Char :=
  match Operator.ofWord? word, table.get? (String.ofList word) with
  | none, some pattern => Formula.quote pattern.toList
  | _, _ => word

/-- A text with the patterns that its words name, as quoted literals, in their place. What stands in
literals is left alone. -/
def quoteNames (table : PatternTable) (text : List Char) : List Char :=
  match text with
  | [] => []
  | c :: rest =>
    if c = '"' then
      match found : literal? rest with
      | none => c :: rest
      | some (_, read, after) =>
        have := literal?_length found
        c :: read ++ quoteNames table after
    else if isWordChar c then
      have := (List.dropWhile_suffix (l := rest) isWordChar).length_le
      quoteName table (c :: rest.takeWhile isWordChar) ++
        quoteNames table (rest.dropWhile isWordChar)
    else c :: quoteNames table rest
termination_by text.length

section Equations

variable {table : PatternTable} {c : Char} {rest : List Char}

/-- A literal is passed over as it is. -/
theorem quoteNames_literal {text read after : List Char}
    (found : literal? rest = some (text, read, after)) :
    quoteNames table ('"' :: rest) = '"' :: read ++ quoteNames table after := by
  rw [quoteNames, if_pos rfl]
  split
  next absent =>
    rw [found] at absent
    cases absent
  next present =>
    rw [found] at present
    cases present
    rfl

/-- A word is replaced if it is a name. -/
theorem quoteNames_word (noQuote : c ≠ '"') (wordChar : isWordChar c = true) :
    quoteNames table (c :: rest) =
      quoteName table (c :: rest.takeWhile isWordChar) ++
        quoteNames table (rest.dropWhile isWordChar) := by
  rw [quoteNames, if_neg noQuote, if_pos wordChar]

/-- Any other character stays. -/
theorem quoteNames_cons (noQuote : c ≠ '"') (noWordChar : isWordChar c = false) :
    quoteNames table (c :: rest) = c :: quoteNames table rest := by
  rw [quoteNames, if_neg noQuote, noWordChar, if_neg Bool.false_ne_true]

end Equations

/-- A name is replaced by a literal, and any other word stays. Both denote the token of the word, and
for the literal there need be no table. -/
theorem exists_lexeme_of_quoteName {table : PatternTable} {word : List Char} (nonempty : word ≠ [])
    (wordChars : ∀ c ∈ word, isWordChar c = true) {token : Token}
    (denoted : wordToken? table word = some token) :
    ∃ lexeme : Lexeme, lexeme.chars = quoteName table word ∧ lexeme.Denotes .empty token := by
  unfold quoteName
  cases (wordToken?_eq_some_iff table nonempty wordChars token).mp denoted with
  | operator spells =>
    rw [(ofWord?_eq_some_iff word _).mpr spells]
    exact ⟨.word word nonempty wordChars, rfl, .operator spells⟩
  | name noOperator defined =>
    rw [(ofWord?_eq_none_iff word).mpr noOperator, defined]
    exact ⟨quotedLiteral _, chars_quotedLiteral _, denotes_quotedLiteral .empty _⟩

/-- Where a text does not begin with a word, it does not do so after names were replaced. -/
theorem isWordChar_head_quoteNames {table : PatternTable} {text : List Char}
    (boundary : ∀ c ∈ text.head?, isWordChar c = false) :
    ∀ c ∈ (quoteNames table text).head?, isWordChar c = false := by
  cases text with
  | nil =>
    rw [quoteNames]
    exact boundary
  | cons c rest =>
    have noWordChar : isWordChar c = false := boundary c rfl
    have same : (quoteNames table (c :: rest)).head? = some c := by
      unfold quoteNames
      rw [noWordChar]
      split
      next => split <;> rfl
      next => rfl
    rw [same]
    exact boundary

/-- Reading goes on behind a lexeme that has the token for which another one was read. -/
theorem exists_quoted_of_lexeme {lexeme : Lexeme} {token : Token} {offset stop : Nat}
    {rest : List Char} {remaining : Except LexError (List Spanned)} {tokens : List Spanned}
    (denotes : lexeme.Denotes .empty token)
    (boundary : lexeme.isWord = true → ∀ c ∈ rest.head?, isWordChar c = false)
    (accepted : (do return Spanned.mk token offset stop :: (← remaining)) = .ok tokens)
    (others : ∀ {behind : List Spanned}, remaining = .ok behind → ∀ shifted,
      ∃ quoted, tokensFrom .empty shifted rest = .ok quoted ∧
        quoted.map (·.token) = behind.map (·.token))
    (shifted : Nat) :
    ∃ quoted, tokensFrom .empty shifted (lexeme.chars ++ rest) = .ok quoted ∧
      quoted.map (·.token) = tokens.map (·.token) := by
  cases remaining with
  | error error => cases accepted
  | ok behind =>
    cases accepted
    obtain ⟨quoted, read, same⟩ := others rfl (shifted + byteLength lexeme.chars)
    refine ⟨⟨token, shifted, shifted + byteLength lexeme.chars⟩ :: quoted, ?_, ?_⟩
    · rw [tokensFrom_lexeme denotes shifted rest boundary, read]
      rfl
    · exact congrArg (token :: ·) same

/-- A text with quoted patterns in place of names is read as the same tokens. The induction follows
the lexer. -/
theorem tokensFrom_quoteNames {table : PatternTable} {offset : Nat} {input : List Char}
    {tokens : List Spanned} (accepted : tokensFrom table offset input = .ok tokens)
    (shifted : Nat) :
    ∃ quoted, tokensFrom .empty shifted (quoteNames table input) = .ok quoted ∧
      quoted.map (·.token) = tokens.map (·.token) := by
  fun_induction tokensFrom table offset input generalizing tokens shifted with
  | case1 =>
    cases accepted
    exact ⟨[], by rw [quoteNames, tokensFrom], rfl⟩
  | case2 offset c rest next blank =>
    rename_i inductionHypothesis
    have noQuote : c ≠ '"' := by
      rintro rfl
      cases blank
    obtain ⟨quoted, read, same⟩ := inductionHypothesis accepted (shifted + c.utf8Size)
    refine ⟨quoted, ?_, same⟩
    rw [quoteNames_cons noQuote (isWordChar_eq_false_of_isWhitespace blank), tokensFrom,
      if_pos blank]
    exact read
  | case3 =>
    rename_i inductionHypothesis
    rw [quoteNames_cons (by decide) rfl]
    exact exists_quoted_of_lexeme .opening (absurd · Bool.false_ne_true) accepted
      inductionHypothesis shifted
  | case4 =>
    rename_i inductionHypothesis
    rw [quoteNames_cons (by decide) rfl]
    exact exists_quoted_of_lexeme .closing (absurd · Bool.false_ne_true) accepted
      inductionHypothesis shifted
  | case5 => cases accepted
  | case6 offset rest text read after found =>
    rename_i inductionHypothesis
    obtain ⟨units, rfl, rfl⟩ := exists_units_of_literal? found
    have written : quoteNames table ('"' :: rest) =
        (Lexeme.literal units).chars ++ quoteNames table after := quoteNames_literal found
    rw [written]
    exact exists_quoted_of_lexeme (.literal units) (absurd · Bool.false_ne_true) accepted
      inductionHypothesis shifted
  | case7 => cases accepted
  | case8 offset c rest noBlank noOpening noClosing noQuote wordChar word token denoted =>
    rename_i inductionHypothesis
    have wordChars := isWordChar_of_mem_word wordChar rest
    obtain ⟨lexeme, written, denotes⟩ :=
      exists_lexeme_of_quoteName (List.cons_ne_nil _ _) wordChars denoted
    have boundary := isWordChar_head_dropWhile rest
    rw [quoteNames_word noQuote wordChar, ← written]
    exact exists_quoted_of_lexeme denotes (fun _ => isWordChar_head_quoteNames boundary) accepted
      inductionHypothesis shifted
  | case9 => cases accepted

/-- A named pattern reads exactly like its quoted literal. If an expression can be read with a table,
then the expression with quoted patterns in place of its names can be read without one, as the same
tokens; and both are parsed into the same formula, or they are refused for the same reason. Nothing
is asked of the table, which may have entries that it would not have accepted. -/
theorem tokenize_quoteNames {expression : String} {table : PatternTable} {tokens : List Spanned}
    (accepted : tokenize expression table = .ok tokens) :
    ∃ quoted, tokenize (String.ofList (quoteNames table expression.toList)) .empty = .ok quoted ∧
      quoted.map (·.token) = tokens.map (·.token) ∧
      (parse quoted).mapError (·.reason) = (parse tokens).mapError (·.reason) := by
  obtain ⟨quoted, read, same⟩ := tokensFrom_quoteNames accepted 0
  refine ⟨quoted, ?_, same, parse_mapError_reason same⟩
  rw [tokenize, String.toList_ofList, read]

/-- Names beside parentheses and literals are replaced. The same name in a literal is not, and neither
is an operator, though the table has an entry for it. The pattern keeps its quote and its backslash. -/
theorem tokenize_quoteNames_beside_literal :
    let table := PatternTable.ofList [("Not", "x"), ("cat", "a\"\\"), ("dog", "d")]
    let expression := "(cat)OR\"cat\"Not dog"
    let tokens : List Spanned :=
      [⟨.opening, 0, 1⟩, ⟨.pattern "a\"\\", 1, 4⟩, ⟨.closing, 4, 5⟩, ⟨.operator .or, 5, 7⟩,
        ⟨.pattern "cat", 7, 12⟩, ⟨.operator .not, 12, 15⟩, ⟨.pattern "d", 16, 19⟩]
    tokenize expression table = .ok tokens ∧
      String.ofList (quoteNames table expression.toList) =
        "(\"a\\\"\\\\\")OR\"cat\"Not \"d\"" ∧
      ∃ quoted, tokenize (String.ofList (quoteNames table expression.toList)) .empty = .ok quoted ∧
        quoted.map (·.token) = tokens.map (·.token) ∧
        (parse quoted).mapError (·.reason) = (parse tokens).mapError (·.reason) := by
  intro table expression tokens
  have accepted : tokenize expression table = .ok tokens := by decide +kernel
  exact ⟨accepted, by decide +kernel, tokenize_quoteNames accepted⟩

end LinkSieve.Expression
