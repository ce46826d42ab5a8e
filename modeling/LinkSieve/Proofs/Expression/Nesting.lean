import LinkSieve.Proofs.Expression.Grammar
/-!
# Nesting read off from the tokens

How many parentheses and prefix NOTs are open around each token of a derivation can be read off from
the tokens, without the derivation: a parenthesis is open up to its counterpart, and a prefix NOT up
to the end of the next primary. So derivations of the same tokens have the same openings.
-/

namespace LinkSieve.Expression

/-- For each token, the number of parentheses and prefix NOTs that are open around it. `around` of
them are open around the next token, and `base` of these will be open still behind the next operand.
`enclosing` has both numbers for each open parenthesis, as they were in front of it. Nothing is
counted from a token on that is out of place. -/
def openingsFrom (wanting : Bool) (around base : Nat) (enclosing : List (Nat × Nat)) :
    List Spanned → List Nat
  | [] => []
  | next :: rest =>
    match wanting, next.token, enclosing with
    | true, .pattern _, _ => around :: openingsFrom false base base enclosing rest
    | true, .operator .not, _ => around :: openingsFrom true (around + 1) base enclosing rest
    | true, .opening, _ =>
      around :: openingsFrom true (around + 1) (around + 1) ((around, base) :: enclosing) rest
    | false, .operator _, _ => around :: openingsFrom true base base enclosing rest
    | false, .closing, (outerAround, outerBase) :: outer =>
      outerAround :: openingsFrom false outerBase outerBase outer rest
    | _, _, _ => []

namespace Derivation

variable {category : Category}

/-- The openings of a derivation are counted from its tokens, wherever the tokens stand. The
induction is on the derivation. Prefix NOTs can wait in front of a negation or a primary, and of
nothing else. -/
theorem openingsFrom_tokens (derivation : Derivation category) {around base : Nat}
    (enclosing : List (Nat × Nat)) (rest : List Spanned)
    (settled : category = .expression ∨ category = .conjunction → around = base) :
    openingsFrom true around base enclosing (derivation.tokens ++ rest) =
      derivation.openings.map (around + ·) ++ openingsFrom false base base enclosing rest := by
  induction derivation generalizing around base enclosing rest with
  | conjunction only inductionHypothesis =>
    exact inductionHypothesis enclosing rest fun _ => settled (.inl rfl)
  | negation only inductionHypothesis =>
    exact inductionHypothesis enclosing rest fun _ => settled (.inr rfl)
  | primary only inductionHypothesis => exact inductionHypothesis enclosing rest (by simp)
  | or left span right leftHypothesis rightHypothesis
  | and left span right leftHypothesis rightHypothesis
  | andNot left span right leftHypothesis rightHypothesis =>
    obtain rfl := settled (by simp)
    simp [tokens, openings, openingsFrom, Span.holds, leftHypothesis, rightHypothesis]
  | not span operand inductionHypothesis =>
    simp [tokens, openings, openingsFrom, Span.holds, inductionHypothesis, Function.comp_def,
      Nat.add_assoc, Nat.add_comm 1]
  | pattern text span => simp [tokens, openings, openingsFrom, Span.holds]
  | group opening closing inner inductionHypothesis =>
    simp [tokens, openings, openingsFrom, Span.holds, inductionHypothesis, Function.comp_def,
      Nat.add_assoc, Nat.add_comm 1]

/-- Derivations of the same tokens have the same openings. -/
theorem openings_eq_of_tokens_eq {first second : Derivation .expression}
    (same : first.tokens = second.tokens) : first.openings = second.openings := by
  have counted (derivation : Derivation .expression) :
      derivation.openings = openingsFrom true 0 0 [] derivation.tokens := by
    have whole := derivation.openingsFrom_tokens [] [] (fun _ => rfl : _ → 0 = 0)
    simpa [openingsFrom] using whole.symm
  rw [counted, counted, same]

end Derivation

end LinkSieve.Expression
