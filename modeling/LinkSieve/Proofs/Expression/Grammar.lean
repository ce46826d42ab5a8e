import LinkSieve.Expression.Parser
/-!
# The grammar of expressions

A derivation says how a token sequence is built from the rules of the grammar. It is data, so that
the token sequence, the formula and the nesting of each derivation are functions of it:

    expression  = conjunction | expression OR conjunction
    conjunction = negation | conjunction AND negation | conjunction NOT negation
    negation    = primary | NOT negation
    primary     = pattern | '(' expression ')'

The rules are left-recursive where operators group to the left. No rule knows of a limit. What a
reader with a limit can take in is a property of derivations, which is stated for every rule at
once.
-/

namespace LinkSieve.Expression

/-- The syntactic categories of the grammar, the loosest one first. -/
inductive Category where
  | expression
  | conjunction
  | negation
  | primary

/-- The bytes that a token was read from. -/
structure Span where
  offset : Nat
  stop : Nat

/-- A token that was read from some bytes. -/
def Span.holds (span : Span) (token : Token) : Spanned := ⟨token, span.offset, span.stop⟩

/-- Derivations of a category, with the bytes of their tokens. `andNot` is the rule for a NOT
between two operands. -/
inductive Derivation : Category → Type where
  | conjunction (only : Derivation .conjunction) : Derivation .expression
  | or (left : Derivation .expression) (span : Span) (right : Derivation .conjunction) :
      Derivation .expression
  | negation (only : Derivation .negation) : Derivation .conjunction
  | and (left : Derivation .conjunction) (span : Span) (right : Derivation .negation) :
      Derivation .conjunction
  | andNot (left : Derivation .conjunction) (span : Span) (right : Derivation .negation) :
      Derivation .conjunction
  | primary (only : Derivation .primary) : Derivation .negation
  | not (span : Span) (operand : Derivation .negation) : Derivation .negation
  | pattern (text : String) (span : Span) : Derivation .primary
  | group (opening closing : Span) (inner : Derivation .expression) : Derivation .primary

namespace Derivation

/-- The token sequence that is derived. -/
def tokens {category : Category} : Derivation category → List Spanned
  | conjunction only => only.tokens
  | negation only => only.tokens
  | primary only => only.tokens
  | or left span right => left.tokens ++ span.holds (.operator .or) :: right.tokens
  | and left span right => left.tokens ++ span.holds (.operator .and) :: right.tokens
  | andNot left span right => left.tokens ++ span.holds (.operator .not) :: right.tokens
  | not span operand => span.holds (.operator .not) :: operand.tokens
  | pattern text span => [span.holds (.pattern text)]
  | group opening closing inner =>
    opening.holds .opening :: inner.tokens ++ [closing.holds .closing]

/-- The formula that the grammar assigns. Parentheses leave no trace in it, and a NOT between two
operands stands for AND NOT. -/
def formula {category : Category} : Derivation category → Formula String
  | conjunction only => only.formula
  | negation only => only.formula
  | primary only => only.formula
  | or left _ right => .or left.formula right.formula
  | and left _ right => .and left.formula right.formula
  | andNot left _ right => .and left.formula (.not right.formula)
  | not _ operand => .not operand.formula
  | pattern text _ => .leaf text
  | group _ _ inner => inner.formula

/-- For each token, the number of parentheses and prefix NOTs that are open around it. -/
def openings {category : Category} : Derivation category → List Nat
  | conjunction only => only.openings
  | negation only => only.openings
  | primary only => only.openings
  | or left _ right => left.openings ++ 0 :: right.openings
  | and left _ right => left.openings ++ 0 :: right.openings
  | andNot left _ right => left.openings ++ 0 :: right.openings
  | not _ operand => 0 :: operand.openings.map (· + 1)
  | pattern _ _ => [0]
  | group _ _ inner => 0 :: inner.openings.map (· + 1) ++ [0]

/-- The greatest number of parentheses and prefix NOTs that are open at once. -/
def nesting {category : Category} : Derivation category → Nat
  | conjunction only => only.nesting
  | negation only => only.nesting
  | primary only => only.nesting
  | or left _ right => max left.nesting right.nesting
  | and left _ right => max left.nesting right.nesting
  | andNot left _ right => max left.nesting right.nesting
  | not _ operand => operand.nesting + 1
  | pattern _ _ => 0
  | group _ _ inner => inner.nesting + 1

variable {category : Category}

/-- Every derivation has a token, and so every token sequence of the grammar has an end. -/
theorem tokens_ne_nil (derivation : Derivation category) : derivation.tokens ≠ [] := by
  induction derivation with
  | conjunction only inductionHypothesis => exact inductionHypothesis
  | negation only inductionHypothesis => exact inductionHypothesis
  | primary only inductionHypothesis => exact inductionHypothesis
  | or | and | andNot | not | pattern | group => simp [tokens]

/-- The nesting is reached at a token. It is the greatest of the openings together with
`le_nesting_of_mem_openings`. -/
theorem nesting_mem_openings (derivation : Derivation category) :
    derivation.nesting ∈ derivation.openings := by
  induction derivation with
  | conjunction only inductionHypothesis => exact inductionHypothesis
  | negation only inductionHypothesis => exact inductionHypothesis
  | primary only inductionHypothesis => exact inductionHypothesis
  | or left span right leftHypothesis rightHypothesis
  | and left span right leftHypothesis rightHypothesis
  | andNot left span right leftHypothesis rightHypothesis =>
    rcases Nat.le_total left.nesting right.nesting with rightDeeper | leftDeeper
    · simp [nesting, openings, Nat.max_eq_right rightDeeper, rightHypothesis]
    · simp [nesting, openings, Nat.max_eq_left leftDeeper, leftHypothesis]
  | not span operand inductionHypothesis => simp [nesting, openings, inductionHypothesis]
  | pattern text span => simp [nesting, openings]
  | group opening closing inner inductionHypothesis => simp [nesting, openings, inductionHypothesis]

/-- No token has more parentheses and prefix NOTs open around it than the nesting. -/
theorem le_nesting_of_mem_openings (derivation : Derivation category) {count : Nat}
    (member : count ∈ derivation.openings) : count ≤ derivation.nesting := by
  induction derivation generalizing count with
  | conjunction only inductionHypothesis => exact inductionHypothesis member
  | negation only inductionHypothesis => exact inductionHypothesis member
  | primary only inductionHypothesis => exact inductionHypothesis member
  | or left span right leftHypothesis rightHypothesis
  | and left span right leftHypothesis rightHypothesis
  | andNot left span right leftHypothesis rightHypothesis =>
    simp only [openings, List.mem_append, List.mem_cons] at member
    rcases member with inLeft | rfl | inRight
    · exact Nat.le_trans (leftHypothesis inLeft) (Nat.le_max_left _ _)
    · exact Nat.zero_le _
    · exact Nat.le_trans (rightHypothesis inRight) (Nat.le_max_right _ _)
  | not span operand inductionHypothesis =>
    simp only [openings, List.mem_cons, List.mem_map] at member
    rcases member with rfl | ⟨inner, inOperand, rfl⟩
    · exact Nat.zero_le _
    · exact Nat.succ_le_succ (inductionHypothesis inOperand)
  | pattern text span =>
    obtain rfl := List.mem_singleton.mp member
    exact Nat.zero_le _
  | group opening closing inner inductionHypothesis =>
    simp only [openings, List.cons_append, List.mem_cons, List.mem_append, List.mem_map,
      List.not_mem_nil, or_false] at member
    rcases member with rfl | ⟨count, inInner, rfl⟩ | rfl
    · exact Nat.zero_le _
    · exact Nat.succ_le_succ (inductionHypothesis inInner)
    · exact Nat.zero_le _

/-- A bound on the nesting is a bound on what is open around every token. -/
theorem nesting_le_iff (derivation : Derivation category) (limit : Nat) :
    derivation.nesting ≤ limit ↔ ∀ count ∈ derivation.openings, count ≤ limit := by
  constructor
  · intro bounded count member
    exact Nat.le_trans (derivation.le_nesting_of_mem_openings member) bounded
  · intro bounded
    exact bounded _ derivation.nesting_mem_openings

/-- The leaves of the formula are the pattern texts of the tokens, in their order. -/
theorem leaves_formula (derivation : Derivation category) :
    derivation.formula.leaves = derivation.tokens.filterMap (·.token.text?) := by
  induction derivation with
  | conjunction only inductionHypothesis => exact inductionHypothesis
  | negation only inductionHypothesis => exact inductionHypothesis
  | primary only inductionHypothesis => exact inductionHypothesis
  | or left span right leftHypothesis rightHypothesis
  | and left span right leftHypothesis rightHypothesis
  | andNot left span right leftHypothesis rightHypothesis =>
    simp [formula, Formula.leaves, tokens, Span.holds, Token.text?, leftHypothesis, rightHypothesis]
  | not span operand inductionHypothesis =>
    simp [formula, Formula.leaves, tokens, Span.holds, Token.text?, inductionHypothesis]
  | pattern text span => simp [formula, Formula.leaves, tokens, Span.holds, Token.text?]
  | group opening closing inner inductionHypothesis =>
    simp [formula, tokens, Span.holds, Token.text?, inductionHypothesis]

/-- Leaves satisfy a condition exactly if the texts of all pattern tokens do. -/
theorem forall_mem_leaves_formula (derivation : Derivation category) (condition : String → Prop) :
    (∀ text ∈ derivation.formula.leaves, condition text) ↔
      ∀ spanned ∈ derivation.tokens, ∀ text, spanned.token = .pattern text → condition text := by
  have isPattern (token : Token) (text : String) :
      token.text? = some text ↔ token = .pattern text := by
    cases token <;> simp [Token.text?]
  simp only [leaves_formula, List.mem_filterMap, isPattern]
  constructor
  · intro holds spanned member text same
    exact holds text ⟨spanned, member, same⟩
  · rintro holds text ⟨spanned, member, same⟩
    exact holds spanned member text same

/-- What a reader with a limit can take in where `outer` parentheses and prefix NOTs are open
already: no pattern is empty, and neither the formula nor the nesting is too deep. -/
structure Fits (limit outer : Nat) (derivation : Derivation category) : Prop where
  leaves : ∀ text ∈ derivation.formula.leaves, text ≠ ""
  depth : derivation.formula.depth ≤ limit
  nesting : outer + derivation.nesting ≤ limit

section Rules

variable {limit outer : Nat} {span opening closing : Span}

/-- A conjunction that stands alone fits as an expression where it fits itself. -/
theorem fits_conjunction {only : Derivation .conjunction} :
    (conjunction only).Fits limit outer ↔ only.Fits limit outer :=
  ⟨fun fits => ⟨fits.leaves, fits.depth, fits.nesting⟩,
    fun fits => ⟨fits.leaves, fits.depth, fits.nesting⟩⟩

/-- A negation that stands alone fits as a conjunction where it fits itself. -/
theorem fits_negation {only : Derivation .negation} :
    (negation only).Fits limit outer ↔ only.Fits limit outer :=
  ⟨fun fits => ⟨fits.leaves, fits.depth, fits.nesting⟩,
    fun fits => ⟨fits.leaves, fits.depth, fits.nesting⟩⟩

/-- A primary that stands alone fits as a negation where it fits itself. -/
theorem fits_primary {only : Derivation .primary} :
    (primary only).Fits limit outer ↔ only.Fits limit outer :=
  ⟨fun fits => ⟨fits.leaves, fits.depth, fits.nesting⟩,
    fun fits => ⟨fits.leaves, fits.depth, fits.nesting⟩⟩

/-- A binary operator adds a level to the formula and none to the nesting, whichever of the three
rules it belongs to. -/
theorem fits_binary {first second whole : Category} {left : Derivation first}
    {right : Derivation second} {joined : Derivation whole}
    (leaves : joined.formula.leaves = left.formula.leaves ++ right.formula.leaves)
    (deeper : max left.formula.depth right.formula.depth < joined.formula.depth)
    (nesting : joined.nesting = max left.nesting right.nesting) :
    joined.Fits limit outer ↔ left.Fits limit outer ∧ right.Fits limit outer ∧
      joined.formula.depth ≤ limit := by
  constructor
  · intro fits
    have joinedDepth := fits.depth
    have joinedNesting := fits.nesting
    have texts : ∀ text ∈ left.formula.leaves ++ right.formula.leaves, text ≠ "" :=
      leaves ▸ fits.leaves
    exact ⟨⟨fun text member => texts text (List.mem_append_left _ member), by omega, by omega⟩,
      ⟨fun text member => texts text (List.mem_append_right _ member), by omega, by omega⟩,
      joinedDepth⟩
  · rintro ⟨leftFits, rightFits, depth⟩
    have leftNesting := leftFits.nesting
    have rightNesting := rightFits.nesting
    refine ⟨?_, depth, by omega⟩
    intro text member
    rw [leaves] at member
    rcases List.mem_append.mp member with inLeft | inRight
    · exact leftFits.leaves text inLeft
    · exact rightFits.leaves text inRight

/-- An OR fits where its operands fit, if it is not too deep itself. -/
theorem fits_or {left : Derivation .expression} {right : Derivation .conjunction} :
    (or left span right).Fits limit outer ↔ left.Fits limit outer ∧ right.Fits limit outer ∧
      (or left span right).formula.depth ≤ limit :=
  fits_binary rfl (Nat.lt_succ_self _) rfl

/-- An AND fits where its operands fit, if it is not too deep itself. -/
theorem fits_and {left : Derivation .conjunction} {right : Derivation .negation} :
    (and left span right).Fits limit outer ↔ left.Fits limit outer ∧ right.Fits limit outer ∧
      (and left span right).formula.depth ≤ limit :=
  fits_binary rfl (Nat.lt_succ_self _) rfl

/-- An AND NOT fits where its operands fit. Its formula is deeper by the NOT, while its nesting is not.
-/
theorem fits_andNot {left : Derivation .conjunction} {right : Derivation .negation} :
    (andNot left span right).Fits limit outer ↔ left.Fits limit outer ∧ right.Fits limit outer ∧
      (andNot left span right).formula.depth ≤ limit :=
  fits_binary rfl (by simp only [formula, Formula.depth]; omega) rfl

/-- A prefix NOT is open around its operand. -/
theorem fits_not {operand : Derivation .negation} :
    (not span operand).Fits limit outer ↔
      operand.Fits limit (outer + 1) ∧ operand.formula.depth + 1 ≤ limit := by
  constructor
  · intro fits
    have nesting : outer + (operand.nesting + 1) ≤ limit := fits.nesting
    have depth : operand.formula.depth + 1 ≤ limit := fits.depth
    exact ⟨⟨fits.leaves, by omega, by omega⟩, depth⟩
  · rintro ⟨fits, depth⟩
    have nesting := fits.nesting
    exact ⟨fits.leaves, depth, by simp only [Derivation.nesting]; omega⟩

/-- A parenthesis is open around what it encloses. -/
theorem fits_group {inner : Derivation .expression} :
    (group opening closing inner).Fits limit outer ↔ inner.Fits limit (outer + 1) := by
  have shifted : outer + (inner.nesting + 1) = outer + 1 + inner.nesting := by omega
  constructor
  · intro fits
    exact ⟨fits.leaves, fits.depth, shifted ▸ fits.nesting⟩
  · intro fits
    exact ⟨fits.leaves, fits.depth, shifted ▸ fits.nesting⟩

/-- A pattern fits where it is not empty, if anything fits at all. -/
theorem fits_pattern {text : String} :
    (pattern text span).Fits limit outer ↔ text ≠ "" ∧ 1 ≤ limit ∧ outer ≤ limit := by
  constructor
  · intro fits
    exact ⟨fits.leaves text (List.mem_singleton_self text), fits.depth, fits.nesting⟩
  · rintro ⟨nonempty, depth, nesting⟩
    exact ⟨fun other member => List.mem_singleton.mp member ▸ nonempty, depth, nesting⟩

end Rules

end Derivation

end LinkSieve.Expression
