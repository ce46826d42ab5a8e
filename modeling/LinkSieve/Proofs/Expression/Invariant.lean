import LinkSieve.Proofs.Expression.Reading
/-!
# What a reader has read

A reader that has not failed has read the tokens of derivations: a complete one for the operand
that it holds and for the left operand of each operator that waits, and beside them the waiting
operators and the open parentheses. Every step keeps this and adds its token. At the end nothing
waits, and what is left is one derivation of all tokens, which fits the limit.

The limit is positive here, since a single pattern is a level of its own and is not checked.
-/

namespace LinkSieve.Expression

open Reader (openAround)

namespace Derivation

variable {category : Category} {limit outer : Nat}

/-- The tokens that an OR was read from that waits for its right operand. -/
inductive ReadDisjunction (limit outer : Nat) : Option Disjunction → List Spanned → Prop where
  | none : ReadDisjunction limit outer none []
  | or (left : Derivation .expression) (span : Span) (fits : left.Fits limit outer) :
      ReadDisjunction limit outer (some ⟨left.operand, span.offset⟩)
        (left.tokens ++ [span.holds (.operator .or)])

/-- The tokens that an AND or a NOT between operands was read from that waits for its right
operand. -/
inductive ReadConjunction (limit outer : Nat) : Option Conjunction → List Spanned → Prop where
  | none : ReadConjunction limit outer none []
  | and (left : Derivation .conjunction) (span : Span) (fits : left.Fits limit outer) :
      ReadConjunction limit outer (some ⟨left.operand, false, span.offset⟩)
        (left.tokens ++ [span.holds (.operator .and)])
  | andNot (left : Derivation .conjunction) (span : Span) (fits : left.Fits limit outer) :
      ReadConjunction limit outer (some ⟨left.operand, true, span.offset⟩)
        (left.tokens ++ [span.holds (.operator .not)])

/-- The tokens of prefix NOTs that wait for an operand, of which the last one is the innermost. -/
inductive ReadNegations : List Nat → List Spanned → Prop where
  | none : ReadNegations [] []
  | not {negations : List Nat} {tokens : List Spanned} (earlier : ReadNegations negations tokens)
      (span : Span) :
      ReadNegations (span.offset :: negations) (tokens ++ [span.holds (.operator .not)])

/-- The tokens of a level that wants an operand. -/
inductive ReadLevel (limit outer : Nat) : Level → List Spanned → Prop where
  | mk {disjunction : Option Disjunction} {conjunction : Option Conjunction} {negations : List Nat}
      {before between after : List Spanned}
      (disjunctionRead : ReadDisjunction limit outer disjunction before)
      (conjunctionRead : ReadConjunction limit outer conjunction between)
      (negationsRead : ReadNegations negations after) :
      ReadLevel limit outer ⟨disjunction, conjunction, negations⟩ (before ++ between ++ after)

/-- The tokens of the interrupted levels, each with the parenthesis that interrupts it. -/
inductive ReadEnclosing (limit : Nat) : List (Nat × Level) → List Spanned → Prop where
  | none : ReadEnclosing limit [] []
  | opening {enclosing : List (Nat × Level)} {level : Level} {before tokens : List Spanned}
      (enclosingRead : ReadEnclosing limit enclosing before)
      (levelRead : ReadLevel limit (openAround enclosing) level tokens) (span : Span) :
      ReadEnclosing limit ((span.offset, level) :: enclosing)
        (before ++ tokens ++ [span.holds .opening])

/-- The tokens that a reader has read. -/
inductive Read (limit : Nat) : Reader → List Spanned → Prop where
  | wanting {enclosing : List (Nat × Level)} {level : Level} {before tokens : List Spanned}
      (enclosingRead : ReadEnclosing limit enclosing before)
      (levelRead : ReadLevel limit (openAround enclosing) level tokens)
      (room : openAround enclosing + level.negations.length ≤ limit)
      (blame : Option (Operator × Nat)) :
      Read limit ⟨enclosing, level, .wanting blame⟩ (before ++ tokens)
  | holding {enclosing : List (Nat × Level)} {disjunction : Option Disjunction}
      {before between : List Spanned}
      (enclosingRead : ReadEnclosing limit enclosing before)
      (disjunctionRead : ReadDisjunction limit (openAround enclosing) disjunction between)
      (held : Derivation .conjunction) (fits : held.Fits limit (openAround enclosing)) :
      Read limit ⟨enclosing, ⟨disjunction, none, []⟩, .holding held.operand⟩
        (before ++ between ++ held.tokens)

/-- A depth check that lets an operand pass does not change it. -/
theorem within_ok {operand passed : Operand} {position : Nat}
    (ok : operand.within limit position = .ok passed) :
    passed = operand ∧ operand.formula.depth ≤ limit := by
  unfold Operand.within at ok
  split at ok
  next notDeep => exact ⟨(Except.ok.inj ok).symm, operand.depth_eq ▸ notDeep⟩
  next => cases ok

/-- Prefix NOTs that take an operand derive a negation from it. The induction is on the NOTs, from
the innermost outwards. -/
theorem negate_derives {negations : List Nat} {tokens : List Spanned}
    (read : ReadNegations negations tokens) (operand : Derivation .negation)
    (fits : operand.Fits limit (outer + negations.length)) {result : Operand}
    (ok : Level.negate limit negations operand.operand = .ok result) :
    ∃ derivation : Derivation .negation, derivation.operand = result ∧
      derivation.tokens = tokens ++ operand.tokens ∧ derivation.Fits limit outer := by
  induction read generalizing operand with
  | none => exact ⟨operand, Except.ok.inj ok, rfl, fits⟩
  | @not negations tokens earlier span inductionHypothesis =>
    obtain ⟨negated, passed, rest⟩ := exists_of_bind_eq_ok ok
    obtain ⟨rfl, notDeep⟩ := within_ok passed
    have negatedFits : (not span operand).Fits limit (outer + negations.length) :=
      fits_not.mpr ⟨fits, notDeep⟩
    obtain ⟨derivation, same, derived, derivationFits⟩ :=
      inductionHypothesis (not span operand) negatedFits rest
    exact ⟨derivation, same, by simp [derived, Derivation.tokens], derivationFits⟩

/-- An AND or a NOT between operands that takes its right operand derives a conjunction. -/
theorem conjoin_derives {conjunction : Option Conjunction} {tokens : List Spanned}
    (read : ReadConjunction limit outer conjunction tokens) (operand : Derivation .negation)
    (fits : operand.Fits limit outer) {result : Operand}
    (ok : Level.conjoin limit conjunction operand.operand = .ok result) :
    ∃ derivation : Derivation .conjunction, derivation.operand = result ∧
      derivation.tokens = tokens ++ operand.tokens ∧ derivation.Fits limit outer := by
  cases read with
  | none => exact ⟨negation operand, Except.ok.inj ok, rfl, fits_negation.mpr fits⟩
  | and left span leftFits =>
    obtain ⟨rfl, notDeep⟩ := within_ok ok
    exact ⟨and left span operand, rfl, by simp [Derivation.tokens],
      fits_and.mpr ⟨leftFits, fits, notDeep⟩⟩
  | andNot left span leftFits =>
    obtain ⟨negated, passed, rest⟩ := exists_of_bind_eq_ok ok
    obtain ⟨rfl, -⟩ := within_ok passed
    obtain ⟨rfl, notDeep⟩ := within_ok rest
    exact ⟨andNot left span operand, rfl, by simp [Derivation.tokens],
      fits_andNot.mpr ⟨leftFits, fits, notDeep⟩⟩

/-- An OR that takes its right operand derives an expression. -/
theorem disjoin_derives {disjunction : Option Disjunction} {tokens : List Spanned}
    (read : ReadDisjunction limit outer disjunction tokens) (operand : Derivation .conjunction)
    (fits : operand.Fits limit outer) {result : Operand}
    (ok : Level.disjoin limit disjunction operand.operand = .ok result) :
    ∃ derivation : Derivation .expression, derivation.operand = result ∧
      derivation.tokens = tokens ++ operand.tokens ∧ derivation.Fits limit outer := by
  cases read with
  | none => exact ⟨conjunction operand, Except.ok.inj ok, rfl, fits_conjunction.mpr fits⟩
  | or left span leftFits =>
    obtain ⟨rfl, notDeep⟩ := within_ok ok
    exact ⟨or left span operand, rfl, by simp [Derivation.tokens],
      fits_or.mpr ⟨leftFits, fits, notDeep⟩⟩

/-- Taking a primary leaves a reader that holds a conjunction of all operands that it completes. -/
theorem take_read {enclosing : List (Nat × Level)} {level : Level} {before tokens : List Spanned}
    (enclosingRead : ReadEnclosing limit enclosing before)
    (levelRead : ReadLevel limit (openAround enclosing) level tokens)
    (operand : Derivation .primary)
    (fits : operand.Fits limit (openAround enclosing + level.negations.length)) {reader : Reader}
    (ok : Reader.take limit enclosing level operand.operand = .ok reader) :
    Read limit reader (before ++ tokens ++ operand.tokens) := by
  obtain ⟨disjunctionRead, conjunctionRead, negationsRead⟩ := levelRead
  obtain ⟨negated, negate, rest⟩ := exists_of_bind_eq_ok ok
  obtain ⟨conjoined, conjoin, held⟩ := exists_of_bind_eq_ok rest
  obtain ⟨negation, rfl, negationTokens, negationFits⟩ :=
    negate_derives negationsRead (primary operand) (fits_primary.mpr fits) negate
  obtain ⟨conjunction, rfl, conjunctionTokens, conjunctionFits⟩ :=
    conjoin_derives conjunctionRead negation negationFits conjoin
  cases held
  have read := Read.holding enclosingRead disjunctionRead conjunction conjunctionFits
  simpa [conjunctionTokens, negationTokens, Derivation.tokens] using read

/-- Entering a parenthesis or prefix NOT takes room for one more. -/
theorem enter_ok {reader entered result : Reader} {position : Nat}
    (ok : reader.enter limit position entered = .ok result) :
    result = entered ∧ reader.nesting < limit := by
  unfold Reader.enter at ok
  split at ok
  next room => exact ⟨(Except.ok.inj ok).symm, room⟩
  next => cases ok

/-- A token where an operand should begin adds itself to what was read. -/
theorem readOperand_read (positive : 0 < limit) {enclosing : List (Nat × Level)} {level : Level}
    {before tokens : List Spanned} (enclosingRead : ReadEnclosing limit enclosing before)
    (levelRead : ReadLevel limit (openAround enclosing) level tokens)
    (room : openAround enclosing + level.negations.length ≤ limit)
    (blame : Option (Operator × Nat)) {next : Spanned} {reader : Reader}
    (ok : Reader.readOperand limit ⟨enclosing, level, .wanting blame⟩ blame next = .ok reader) :
    Read limit reader (before ++ tokens ++ [next]) := by
  obtain ⟨token, offset, stop⟩ := next
  have nesting : Reader.nesting ⟨enclosing, level, .wanting blame⟩ =
      openAround enclosing + level.negations.length := Nat.add_comm _ _
  cases token with
  | pattern text =>
    simp only [Reader.readOperand] at ok
    split at ok
    next => cases ok
    next nonempty =>
      have textNonempty : text ≠ "" := by
        intro empty
        simp [empty] at nonempty
      exact take_read enclosingRead levelRead (pattern text ⟨offset, stop⟩)
        (fits_pattern.mpr ⟨textNonempty, positive, room⟩) ok
  | opening =>
    obtain ⟨rfl, notFull⟩ := enter_ok ok
    rw [nesting] at notFull
    have opened : openAround ((offset, level) :: enclosing) ≤ limit := by
      simp only [openAround] at notFull ⊢
      omega
    have read := Read.wanting (.opening enclosingRead levelRead ⟨offset, stop⟩)
      (.mk .none .none .none) opened none
    simpa [Span.holds, Level.empty] using read
  | closing => cases blame <;> cases ok
  | operator symbol =>
    cases symbol with
    | and => cases ok
    | or => cases ok
    | not =>
      obtain ⟨rfl, notFull⟩ := enter_ok ok
      rw [nesting] at notFull
      obtain ⟨disjunctionRead, conjunctionRead, negationsRead⟩ := levelRead
      have read := Read.wanting enclosingRead
        (.mk disjunctionRead conjunctionRead (.not negationsRead ⟨offset, stop⟩)) notFull
        (some (.not, offset))
      simpa [Span.holds] using read

/-- A token after an operand adds itself to what was read. -/
theorem readOperator_read {enclosing : List (Nat × Level)} {disjunction : Option Disjunction}
    {before between : List Spanned} (enclosingRead : ReadEnclosing limit enclosing before)
    (disjunctionRead : ReadDisjunction limit (openAround enclosing) disjunction between)
    (held : Derivation .conjunction) (fits : held.Fits limit (openAround enclosing))
    {next : Spanned} {reader : Reader}
    (ok : Reader.readOperator limit ⟨enclosing, ⟨disjunction, none, []⟩, .holding held.operand⟩
      held.operand next = .ok reader) :
    Read limit reader (before ++ between ++ held.tokens ++ [next]) := by
  obtain ⟨token, offset, stop⟩ := next
  have room : openAround enclosing ≤ limit :=
    Nat.le_trans (Nat.le_add_right _ _) fits.nesting
  cases token with
  | pattern text =>
    obtain ⟨_, _, failed⟩ := exists_of_bind_eq_ok ok
    cases failed
  | opening =>
    obtain ⟨_, _, failed⟩ := exists_of_bind_eq_ok ok
    cases failed
  | closing =>
    obtain ⟨inner, joined, rest⟩ := exists_of_bind_eq_ok ok
    obtain ⟨expression, rfl, expressionTokens, expressionFits⟩ :=
      disjoin_derives disjunctionRead held fits joined
    cases enclosingRead with
    | none => cases rest
    | @opening enclosing level before tokens enclosingRead levelRead span =>
      have shifted : openAround ((span.offset, level) :: enclosing) =
          openAround enclosing + level.negations.length + 1 := by
        simp only [openAround]
        omega
      rw [shifted] at expressionFits
      have read := take_read enclosingRead levelRead (group span ⟨offset, stop⟩ expression)
        (fits_group.mpr expressionFits) rest
      simpa [Derivation.tokens, expressionTokens, Span.holds] using read
  | operator symbol =>
    cases symbol with
    | and =>
      cases ok
      have read := Read.wanting enclosingRead
        (.mk disjunctionRead (.and held ⟨offset, stop⟩ fits) .none) room (some (.and, offset))
      simpa [Span.holds, Reader.awaitConjunct] using read
    | not =>
      cases ok
      have read := Read.wanting enclosingRead
        (.mk disjunctionRead (.andNot held ⟨offset, stop⟩ fits) .none) room (some (.not, offset))
      simpa [Span.holds, Reader.awaitConjunct] using read
    | or =>
      obtain ⟨left, joined, rest⟩ := exists_of_bind_eq_ok ok
      obtain ⟨expression, rfl, expressionTokens, expressionFits⟩ :=
        disjoin_derives disjunctionRead held fits joined
      cases rest
      have read := Read.wanting enclosingRead
        (.mk (.or expression ⟨offset, stop⟩ expressionFits) .none .none) room (some (.or, offset))
      simpa [expressionTokens, Span.holds] using read

/-- Every step keeps the invariant and adds the token to what was read. -/
theorem step_read (positive : 0 < limit) {reader result : Reader} {tokens : List Spanned}
    {next : Spanned} (read : Read limit reader tokens)
    (ok : reader.step limit next = .ok result) : Read limit result (tokens ++ [next]) := by
  cases read with
  | wanting enclosingRead levelRead room blame =>
    exact readOperand_read positive enclosingRead levelRead room blame ok
  | holding enclosingRead disjunctionRead held fits =>
    exact readOperator_read enclosingRead disjunctionRead held fits ok

/-- The reader before the first token has read nothing. -/
theorem start_read : Read limit .start [] :=
  .wanting .none (.mk .none .none .none) (Nat.zero_le _) none

/-- Every run of steps keeps the invariant. -/
theorem foldlM_step_read (positive : 0 < limit) {reader result : Reader} {earlier : List Spanned}
    (tokens : List Spanned) (read : Read limit reader earlier)
    (ok : tokens.foldlM (Reader.step limit) reader = .ok result) :
    Read limit result (earlier ++ tokens) := by
  induction tokens generalizing reader earlier with
  | nil =>
    cases ok
    simpa using read
  | cons next rest inductionHypothesis =>
    rw [List.foldlM_cons] at ok
    obtain ⟨stepped, step, rest⟩ := exists_of_bind_eq_ok ok
    have extended := inductionHypothesis (step_read positive read step) rest
    simpa using extended

/-- Reading ends well only on one derivation of all tokens. -/
theorem finish_derives {reader : Reader} {tokens : List Spanned} {stop : Nat}
    {formula : Formula String} (read : Read limit reader tokens)
    (ok : reader.finish limit stop = .ok formula) :
    ∃ derivation : Derivation .expression, derivation.tokens = tokens ∧
      derivation.formula = formula ∧ derivation.Fits limit 0 := by
  cases read with
  | wanting _ _ _ blame => cases blame <;> cases ok
  | holding enclosingRead disjunctionRead held fits =>
    obtain ⟨whole, joined, rest⟩ := exists_of_bind_eq_ok ok
    obtain ⟨expression, rfl, expressionTokens, expressionFits⟩ :=
      disjoin_derives disjunctionRead held fits joined
    cases enclosingRead with
    | none =>
      cases rest
      exact ⟨expression, by simp [expressionTokens], rfl, expressionFits⟩
    | opening => cases rest

/-- What is parsed is derived and fits the limit. -/
theorem exists_of_parseWithin_eq_ok (positive : 0 < limit) {tokens : List Spanned}
    {formula : Formula String} (ok : parseWithin limit tokens = .ok formula) :
    ∃ derivation : Derivation .expression, derivation.tokens = tokens ∧
      derivation.formula = formula ∧ derivation.Fits limit 0 := by
  unfold parseWithin at ok
  split at ok
  next => cases ok
  next last _ =>
    obtain ⟨reader, run, finish⟩ := exists_of_bind_eq_ok ok
    have read := foldlM_step_read positive tokens start_read run
    exact finish_derives read finish

end Derivation

end LinkSieve.Expression
