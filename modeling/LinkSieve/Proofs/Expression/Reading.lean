import LinkSieve.Proofs.Expression.Grammar
import LinkSieve.Proofs.Steps
/-!
# Reading what the grammar derives

The tokens of a derivation lead the reader to the formula of that derivation, from every reader
that wants an operand and whatever waits in it. Where a pattern is empty, or where the formula or
the nesting is too deep for the limit, the reader may instead refuse the tokens for that reason.
It has no other way to go astray, and it does not refuse what fits.
-/

namespace LinkSieve.Expression

/-- An error that blames an empty pattern or a level too many. -/
def Refuses {α : Type} (result : Except ParseError α) : Prop :=
  ∃ position reason,
    result = .error ⟨position, reason⟩ ∧ (reason = .emptyPattern ∨ reason = .tooDeep)

/-- A result is the expected one, or it is a refusal and what was read is not admissible. -/
def Agrees {α : Type} (admissible : Prop) (result expected : Except ParseError α) : Prop :=
  result = expected ∨ Refuses result ∧ ¬admissible

namespace Agrees

variable {α β : Type} {admissible other : Prop} {result expected : Except ParseError α}

/-- A stronger condition leaves more room for refusals. -/
theorem weaken (agrees : Agrees other result expected) (stronger : admissible → other) :
    Agrees admissible result expected :=
  agrees.imp_right fun ⟨refuses, violated⟩ => ⟨refuses, fun holds => violated (stronger holds)⟩

/-- A computation agrees with a result if its first part leads to a value from which the rest leads
there. A refusal of the first part is one of the whole. -/
theorem bind (value : α) {next : α → Except ParseError β} {outcome : Except ParseError β}
    (first : Agrees admissible result (.ok value)) (rest : Agrees admissible (next value) outcome) :
    Agrees admissible (result >>= next) outcome := by
  rcases first with rfl | ⟨⟨position, reason, rfl, cause⟩, violated⟩
  · exact rest
  · exact Or.inr ⟨⟨position, reason, rfl, cause⟩, violated⟩

/-- A result that agrees with one that agrees with a third agrees with the third. -/
theorem trans {last : Except ParseError α} (first : Agrees admissible result expected)
    (second : Agrees admissible expected last) : Agrees admissible result last := by
  rcases first with rfl | refused
  · exact second
  · exact Or.inr refused

/-- What is admissible has the expected result. -/
theorem eq_expected (agrees : Agrees admissible result expected) (holds : admissible) :
    result = expected := by
  rcases agrees with same | ⟨_, violated⟩
  · exact same
  · exact absurd holds violated

end Agrees

namespace Derivation

variable {category : Category} {limit : Nat}

/-- The formula together with its depth, as a reader holds it. -/
def operand (derivation : Derivation category) : Operand :=
  ⟨derivation.formula, derivation.formula.depth, rfl⟩

/-- The depth check lets a formula pass exactly if it is not too deep. -/
theorem within_agrees (derivation : Derivation category) (position : Nat) :
    Agrees (derivation.formula.depth ≤ limit) (derivation.operand.within limit position)
      (.ok derivation.operand) := by
  unfold Operand.within
  split
  next => exact Or.inl rfl
  next tooDeep => exact Or.inr ⟨⟨position, .tooDeep, rfl, Or.inr rfl⟩, tooDeep⟩

/-- Where the tokens of a derivation lead a reader that wants an operand. A primary or negation is
taken as an operand there. A conjunction is held on a level on which at most an OR waits. An
expression, on a level of its own, is what an OR that waits and the operand after it add up to. -/
def Leads (limit : Nat) (enclosing : List (Nat × Level)) (level : Level)
    (blame : Option (Operator × Nat)) :
    {category : Category} → Derivation category → Prop
  | .primary, derivation | .negation, derivation =>
    Agrees (derivation.Fits limit (Reader.nesting ⟨enclosing, level, .wanting blame⟩))
      (derivation.tokens.foldlM (Reader.step limit) ⟨enclosing, level, .wanting blame⟩)
      (Reader.take limit enclosing level derivation.operand)
  | .conjunction, derivation => ∀ waiting, level = ⟨waiting, none, []⟩ →
    Agrees (derivation.Fits limit (Reader.nesting ⟨enclosing, level, .wanting blame⟩))
      (derivation.tokens.foldlM (Reader.step limit) ⟨enclosing, level, .wanting blame⟩)
      (.ok ⟨enclosing, level, .holding derivation.operand⟩)
  | .expression, derivation => level = .empty → ∃ waiting operand,
    Agrees (derivation.Fits limit (Reader.nesting ⟨enclosing, level, .wanting blame⟩))
      (derivation.tokens.foldlM (Reader.step limit) ⟨enclosing, level, .wanting blame⟩)
      (.ok ⟨enclosing, ⟨waiting, none, []⟩, .holding operand⟩) ∧
    Agrees (derivation.Fits limit (Reader.nesting ⟨enclosing, level, .wanting blame⟩))
      (Level.disjoin limit waiting operand) (.ok derivation.operand)

/-- A parenthesis or prefix NOT is entered unless too many are open. -/
theorem enter_agrees (reader entered : Reader) (position : Nat) :
    Agrees (reader.nesting < limit) (reader.enter limit position entered) (.ok entered) := by
  unfold Reader.enter
  split
  next => exact Or.inl rfl
  next full => exact Or.inr ⟨⟨position, .tooDeep, rfl, Or.inr rfl⟩, full⟩

/-- What is open around the next token on a level, apart from how the level came to be. -/
theorem nesting_wanting (enclosing : List (Nat × Level)) (level : Level)
    (blame : Option (Operator × Nat)) :
    Reader.nesting ⟨enclosing, level, .wanting blame⟩ =
      level.negations.length + Reader.openAround enclosing := rfl

/-- An OR that waits takes its right operand unless the disjunction is too deep. -/
theorem disjoin_agrees (left : Derivation .expression) (span : Span)
    (right : Derivation .conjunction) :
    Agrees ((or left span right).formula.depth ≤ limit)
      (Level.disjoin limit (some ⟨left.operand, span.offset⟩) right.operand)
      (.ok (or left span right).operand) :=
  (or left span right).within_agrees span.offset

/-- An AND that waits takes its right operand unless the conjunction is too deep. -/
theorem conjoin_and_agrees (left : Derivation .conjunction) (span : Span)
    (right : Derivation .negation) :
    Agrees ((and left span right).formula.depth ≤ limit)
      (Level.conjoin limit (some ⟨left.operand, false, span.offset⟩) right.operand)
      (.ok (and left span right).operand) :=
  (and left span right).within_agrees span.offset

/-- A NOT between operands forms two nodes, the negation before the conjunction. If the negation
is too deep, so is the conjunction. -/
theorem conjoin_andNot_agrees (left : Derivation .conjunction) (span : Span)
    (right : Derivation .negation) :
    Agrees ((andNot left span right).formula.depth ≤ limit)
      (Level.conjoin limit (some ⟨left.operand, true, span.offset⟩) right.operand)
      (.ok (andNot left span right).operand) := by
  have deeper : (not span right).formula.depth ≤ (andNot left span right).formula.depth := by
    simp only [formula, Formula.depth]
    omega
  have negated : Agrees ((andNot left span right).formula.depth ≤ limit)
      (right.operand.not.within limit span.offset) (.ok (not span right).operand) :=
    ((not span right).within_agrees span.offset).weaken (Nat.le_trans deeper)
  exact negated.bind _ ((andNot left span right).within_agrees span.offset)

/-- An operand is taken on a level where a NOT waits as its negation is taken without that NOT. -/
theorem take_negations_cons (enclosing : List (Nat × Level)) (level : Level) (span : Span)
    (operand : Derivation .negation) :
    Agrees ((not span operand).formula.depth ≤ limit)
      (Reader.take limit enclosing { level with negations := span.offset :: level.negations }
        operand.operand)
      (Reader.take limit enclosing level (not span operand).operand) := by
  simp only [Reader.take, Level.negate, bind_assoc]
  exact ((not span operand).within_agrees span.offset).bind _ (Or.inl rfl)

/-- Reading follows every derivation. The induction is on the derivation, for all readers at once,
because the operand of a prefix NOT and the inside of a parenthesis are read where more waits. -/
theorem leads (limit : Nat) (derivation : Derivation category) (enclosing : List (Nat × Level))
    (level : Level) (blame : Option (Operator × Nat)) :
    Leads limit enclosing level blame derivation := by
  induction derivation generalizing enclosing level blame with
  | conjunction only inductionHypothesis =>
    rintro rfl
    have conjunctionReads := inductionHypothesis enclosing .empty blame none rfl
    exact ⟨none, only.operand, conjunctionReads.weaken fits_conjunction.mp, Or.inl rfl⟩
  | or left span right leftHypothesis rightHypothesis =>
    rintro rfl
    obtain ⟨waiting, operand, leftReads, leftJoins⟩ := leftHypothesis enclosing .empty blame rfl
    have rightReads := rightHypothesis enclosing ⟨some ⟨left.operand, span.offset⟩, none, []⟩
      (some (.or, span.offset)) _ rfl
    refine ⟨some ⟨left.operand, span.offset⟩, right.operand, ?_, ?_⟩
    · simp only [tokens, List.foldlM_append, List.foldlM_cons]
      refine (leftReads.weaken fun fits => (fits_or.mp fits).1).bind _ ?_
      refine Agrees.bind ⟨enclosing, ⟨some ⟨left.operand, span.offset⟩, none, []⟩,
        .wanting (some (.or, span.offset))⟩ ?_ ?_
      -- This OR makes the one before it take its right operand.
      · exact (leftJoins.weaken fun fits => (fits_or.mp fits).1).bind _ (Or.inl rfl)
      · exact rightReads.weaken fun fits => (fits_or.mp fits).2.1
    · exact (disjoin_agrees left span right).weaken fun fits => (fits_or.mp fits).2.2
  | negation only inductionHypothesis =>
    rintro waiting rfl
    exact (inductionHypothesis enclosing ⟨waiting, none, []⟩ blame).weaken fits_negation.mp
  | and left span right leftHypothesis rightHypothesis =>
    rintro waiting rfl
    have leftReads := leftHypothesis enclosing _ blame waiting rfl
    have rightReads := rightHypothesis enclosing
      ⟨waiting, some ⟨left.operand, false, span.offset⟩, []⟩ (some (.and, span.offset))
    simp only [tokens, List.foldlM_append, List.foldlM_cons]
    refine (leftReads.weaken fun fits => (fits_and.mp fits).1).bind _ ?_
    refine (rightReads.weaken fun fits => (fits_and.mp fits).2.1).trans ?_
    exact ((conjoin_and_agrees left span right).weaken
      fun fits => (fits_and.mp fits).2.2).bind _ (Or.inl rfl)
  | andNot left span right leftHypothesis rightHypothesis =>
    rintro waiting rfl
    have leftReads := leftHypothesis enclosing _ blame waiting rfl
    have rightReads := rightHypothesis enclosing
      ⟨waiting, some ⟨left.operand, true, span.offset⟩, []⟩ (some (.not, span.offset))
    simp only [tokens, List.foldlM_append, List.foldlM_cons]
    refine (leftReads.weaken fun fits => (fits_andNot.mp fits).1).bind _ ?_
    refine (rightReads.weaken fun fits => (fits_andNot.mp fits).2.1).trans ?_
    exact ((conjoin_andNot_agrees left span right).weaken
      fun fits => (fits_andNot.mp fits).2.2).bind _ (Or.inl rfl)
  | primary only inductionHypothesis =>
    exact (inductionHypothesis enclosing level blame).weaken fits_primary.mp
  | not span operand inductionHypothesis =>
    have operandReads := inductionHypothesis enclosing
      { level with negations := span.offset :: level.negations } (some (.not, span.offset))
    simp only [Leads, tokens, List.foldlM_cons]
    refine ((enter_agrees _ _ span.offset).weaken fun fits => ?_).bind _ ?_
    · have nesting := (fits_not.mp fits).1.nesting
      omega
    · refine (operandReads.weaken fun fits => ?_).trans ?_
      · have deeper : level.negations.length + 1 + Reader.openAround enclosing =
            Reader.nesting ⟨enclosing, level, .wanting blame⟩ + 1 := by
          rw [nesting_wanting]
          omega
        rw [nesting_wanting, List.length_cons, deeper]
        exact (fits_not.mp fits).1
      · exact (take_negations_cons enclosing level span operand).weaken
          fun fits => (fits_not.mp fits).2
  | pattern text span =>
    simp only [Leads, tokens, List.foldlM_cons, List.foldlM_nil, bind_pure]
    by_cases empty : text.toList.isEmpty
    · have violated : ¬(pattern text span).Fits limit
          (Reader.nesting ⟨enclosing, level, .wanting blame⟩) := by
        intro fits
        exact (fits_pattern.mp fits).1 (String.toList_eq_nil_iff.mp (List.isEmpty_iff.mp empty))
      refine Or.inr ⟨⟨span.offset, .emptyPattern, ?_, Or.inl rfl⟩, violated⟩
      simp [Reader.step, Reader.readOperand, Span.holds, empty]
    · left
      simp [Reader.step, Reader.readOperand, Span.holds, empty, operand, formula, Operand.pattern,
        Formula.depth]
  | group opening closing inner inductionHypothesis =>
    have innerReads := inductionHypothesis ((opening.offset, level) :: enclosing) .empty none rfl
    obtain ⟨waiting, operand, innerReads, innerJoins⟩ := innerReads
    have nesting : Reader.nesting ⟨(opening.offset, level) :: enclosing, .empty, .wanting none⟩ =
        Reader.nesting ⟨enclosing, level, .wanting blame⟩ + 1 := by
      simp only [nesting_wanting, Level.empty, List.length_nil, Reader.openAround]
      omega
    rw [nesting] at innerReads innerJoins
    simp only [Leads, tokens, List.cons_append, List.foldlM_cons, List.foldlM_append,
      List.foldlM_nil, bind_pure]
    refine ((enter_agrees _ _ opening.offset).weaken fun fits => ?_).bind _ ?_
    · have room := (fits_group.mp fits).nesting
      omega
    · refine (innerReads.weaken fits_group.mp).bind _ ?_
      exact (innerJoins.weaken fits_group.mp).bind _ (Or.inl rfl)

/-- The tokens of an expression are parsed into its formula, or refused if they do not fit. -/
theorem parseWithin_agrees (limit : Nat) (derivation : Derivation .expression) :
    Agrees (derivation.Fits limit 0) (parseWithin limit derivation.tokens)
      (.ok derivation.formula) := by
  obtain ⟨waiting, operand, reads, joins⟩ := derivation.leads limit [] .empty none rfl
  have last := List.getLast?_eq_some_getLast derivation.tokens_ne_nil
  simp only [parseWithin, last]
  exact reads.bind _ (joins.bind _ (Or.inl rfl))

end Derivation

end LinkSieve.Expression
