import LinkSieve.Proofs.Expression.Formula
import LinkSieve.Proofs.Expression.Invariant
/-!
# What the parser accepts

The parser accepts the token sequences of the grammar that fit the limit, each with the formula
that the grammar assigns. The grammar assigns at most one formula to a token sequence, also to one
that does not fit: with a limit that is high enough, and with a letter more in every pattern, the
parser reads the sequence, and it has one result.
-/

namespace LinkSieve.Expression

/-- A token with its pattern text replaced, if it is a pattern. -/
def Spanned.relabel (convert : String → String) (spanned : Spanned) : Spanned :=
  match spanned.token with
  | .pattern text => { spanned with token := .pattern (convert text) }
  | _ => spanned

namespace Derivation

variable {category : Category}

/-- A derivation with its pattern texts replaced. -/
def relabel (convert : String → String) {category : Category} :
    Derivation category → Derivation category
  | conjunction only => conjunction (only.relabel convert)
  | negation only => negation (only.relabel convert)
  | primary only => primary (only.relabel convert)
  | or left span right => or (left.relabel convert) span (right.relabel convert)
  | and left span right => and (left.relabel convert) span (right.relabel convert)
  | andNot left span right => andNot (left.relabel convert) span (right.relabel convert)
  | not span operand => not span (operand.relabel convert)
  | pattern text span => pattern (convert text) span
  | group opening closing inner => group opening closing (inner.relabel convert)

/-- The tokens are those of the derivation, with their texts converted. -/
theorem tokens_relabel (convert : String → String) (derivation : Derivation category) :
    (derivation.relabel convert).tokens = derivation.tokens.map (Spanned.relabel convert) := by
  induction derivation with
  | conjunction only inductionHypothesis => exact inductionHypothesis
  | negation only inductionHypothesis => exact inductionHypothesis
  | primary only inductionHypothesis => exact inductionHypothesis
  | or left span right leftHypothesis rightHypothesis
  | and left span right leftHypothesis rightHypothesis
  | andNot left span right leftHypothesis rightHypothesis =>
    simp [relabel, tokens, Span.holds, Spanned.relabel, leftHypothesis, rightHypothesis]
  | not span operand inductionHypothesis =>
    simp [relabel, tokens, Span.holds, Spanned.relabel, inductionHypothesis]
  | pattern text span => rfl
  | group opening closing inner inductionHypothesis =>
    simp [relabel, tokens, Span.holds, Spanned.relabel, inductionHypothesis]

/-- The formula is that of the derivation, with its patterns converted. -/
theorem formula_relabel (convert : String → String) (derivation : Derivation category) :
    (derivation.relabel convert).formula = derivation.formula.map convert := by
  induction derivation with
  | conjunction only inductionHypothesis => exact inductionHypothesis
  | negation only inductionHypothesis => exact inductionHypothesis
  | primary only inductionHypothesis => exact inductionHypothesis
  | or left span right leftHypothesis rightHypothesis
  | and left span right leftHypothesis rightHypothesis
  | andNot left span right leftHypothesis rightHypothesis =>
    simp [relabel, formula, Formula.map, leftHypothesis, rightHypothesis]
  | not span operand inductionHypothesis =>
    simp [relabel, formula, Formula.map, inductionHypothesis]
  | pattern text span => rfl
  | group opening closing inner inductionHypothesis => exact inductionHypothesis

/-- Conversion leaves the nesting as it is. -/
theorem nesting_relabel (convert : String → String) (derivation : Derivation category) :
    (derivation.relabel convert).nesting = derivation.nesting := by
  induction derivation with
  | conjunction only inductionHypothesis => exact inductionHypothesis
  | negation only inductionHypothesis => exact inductionHypothesis
  | primary only inductionHypothesis => exact inductionHypothesis
  | or left span right leftHypothesis rightHypothesis
  | and left span right leftHypothesis rightHypothesis
  | andNot left span right leftHypothesis rightHypothesis =>
    simp [relabel, nesting, leftHypothesis, rightHypothesis]
  | not span operand inductionHypothesis => simp [relabel, nesting, inductionHypothesis]
  | pattern text span => rfl
  | group opening closing inner inductionHypothesis => simp [relabel, nesting, inductionHypothesis]

/-- With a letter more in every pattern, a derivation fits every limit that its depth and nesting
are within. -/
theorem fits_relabel_push {limit : Nat} (derivation : Derivation category)
    (depth : derivation.formula.depth ≤ limit) (nesting : derivation.nesting ≤ limit) :
    (derivation.relabel (·.push 'x')).Fits limit 0 where
  leaves := by
    intro text member
    rw [formula_relabel, Formula.leaves_map] at member
    obtain ⟨original, _, rfl⟩ := List.mem_map.mp member
    exact String.push_ne_empty
  depth := by rwa [formula_relabel, Formula.depth_map]
  nesting := by rwa [nesting_relabel, Nat.zero_add]

/-- The grammar is unambiguous: derivations of the same tokens have the same formula. -/
theorem formula_eq_of_tokens_eq {first second : Derivation .expression}
    (same : first.tokens = second.tokens) : first.formula = second.formula := by
  let limit := first.formula.depth + first.nesting + (second.formula.depth + second.nesting)
  have firstParsed := (parseWithin_agrees limit (first.relabel (·.push 'x'))).eq_expected
    (first.fits_relabel_push (by omega) (by omega))
  have secondParsed := (parseWithin_agrees limit (second.relabel (·.push 'x'))).eq_expected
    (second.fits_relabel_push (by omega) (by omega))
  rw [tokens_relabel, formula_relabel] at firstParsed secondParsed
  rw [same] at firstParsed
  have sameResult := firstParsed.symm.trans secondParsed
  refine Formula.map_injective ?_ (Except.ok.inj sameResult)
  intro text other pushed
  exact (String.push_inj.mp pushed).1

/-- Fitting the limit at the outermost level, in terms of the tokens, the formula and what is open
around each token. -/
theorem fits_zero_iff (derivation : Derivation category) (limit : Nat) :
    derivation.Fits limit 0 ↔
      (∀ spanned ∈ derivation.tokens, spanned.token ≠ .pattern "") ∧
      derivation.formula.depth ≤ limit ∧ ∀ count ∈ derivation.openings, count ≤ limit := by
  have nonempty := derivation.forall_mem_leaves_formula (· ≠ "")
  constructor
  · intro fits
    refine ⟨?_, fits.depth, (derivation.nesting_le_iff limit).mp (by simpa using fits.nesting)⟩
    intro spanned member isEmpty
    exact nonempty.mp fits.leaves spanned member "" isEmpty rfl
  · rintro ⟨patterns, depth, openings⟩
    refine ⟨nonempty.mpr ?_, depth, by simpa using (derivation.nesting_le_iff limit).mpr openings⟩
    rintro spanned member text isPattern rfl
    exact patterns spanned member isPattern

/-- What is parsed under a positive limit is what is derived and fits it. -/
theorem parseWithin_eq_ok_iff {limit : Nat} (positive : 0 < limit) (tokens : List Spanned)
    (formula : Formula String) :
    parseWithin limit tokens = .ok formula ↔
      ∃ derivation : Derivation .expression, derivation.tokens = tokens ∧
        derivation.formula = formula ∧ derivation.Fits limit 0 := by
  constructor
  · exact exists_of_parseWithin_eq_ok positive
  · rintro ⟨derivation, rfl, rfl, fits⟩
    exact (parseWithin_agrees limit derivation).eq_expected fits

end Derivation

/-- A token sequence is parsed into a formula exactly if it has a derivation with that formula,
none of its patterns is empty, the formula is not too deep, and around no token are too many
parentheses and prefix NOTs open. No token sequence has two formulas, not even one that is refused
for its depth or for an empty pattern, and no parsed formula is too deep. -/
theorem parse_eq_ok_iff_derivation (tokens : List Spanned) :
    (∀ formula, parse tokens = .ok formula ↔
      ∃ derivation : Derivation .expression,
        derivation.tokens = tokens ∧ derivation.formula = formula ∧
        (∀ spanned ∈ tokens, spanned.token ≠ .pattern "") ∧
        formula.depth ≤ maxDepth ∧
        ∀ count ∈ derivation.openings, count ≤ maxDepth) ∧
    (∀ first second : Derivation .expression,
      first.tokens = tokens → second.tokens = tokens → first.formula = second.formula) ∧
    ∀ formula, parse tokens = .ok formula → formula.depth ≤ maxDepth := by
  have accepted : ∀ formula, parse tokens = .ok formula ↔
      ∃ derivation : Derivation .expression,
        derivation.tokens = tokens ∧ derivation.formula = formula ∧
        (∀ spanned ∈ tokens, spanned.token ≠ .pattern "") ∧
        formula.depth ≤ maxDepth ∧
        ∀ count ∈ derivation.openings, count ≤ maxDepth := by
    intro formula
    rw [parse, Derivation.parseWithin_eq_ok_iff (by decide)]
    refine exists_congr fun derivation => ?_
    rw [derivation.fits_zero_iff]
    constructor
    · rintro ⟨rfl, rfl, fits⟩
      exact ⟨rfl, rfl, fits⟩
    · rintro ⟨rfl, rfl, fits⟩
      exact ⟨rfl, rfl, fits⟩
  refine ⟨accepted, ?_, ?_⟩
  · intro first second firstTokens secondTokens
    exact Derivation.formula_eq_of_tokens_eq (firstTokens.trans secondTokens.symm)
  · intro formula parsed
    obtain ⟨_, _, _, _, depth, _⟩ := (accepted formula).mp parsed
    exact depth

end LinkSieve.Expression
