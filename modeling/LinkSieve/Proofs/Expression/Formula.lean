import Mathlib.Control.Basic
import LinkSieve.Expression.Formula
/-!
# Conversions of formulas

A conversion of the leaves keeps the shape of a formula. A traversal converts them from left to
right, under effects. Its effects, and the results in their order, are those of a loop over the list
of leaves. A traversal that can fail stops at the leftmost leaf that fails.

A formula over propositions of its leaves is true or false by the meaning of its connectives. Its
evaluation decides it.
-/

namespace LinkSieve.Expression

/-- A loop that can fail stops at the first item that fails. -/
theorem mapM_eq_error_iff {ε α β : Type} {visit : α → Except ε β} {items : List α} {error : ε} :
    items.mapM visit = .error error ↔
      ∃ item, items.find? (fun other => !(visit other).isOk) = some item ∧
        visit item = .error error := by
  induction items with
  | nil => simp [pure, Except.pure]
  | cons first rest inductionHypothesis =>
    rw [List.mapM_cons, List.find?_cons]
    cases visited : visit first with
    | error cause =>
      have stops : (do
          let value ← (.error cause : Except ε β)
          let values ← rest.mapM visit
          pure (value :: values)) = .error cause := rfl
      rw [stops]
      simp [Except.isOk, Except.toBool, visited]
    | ok value =>
      have continues : (do
          let value ← (.ok value : Except ε β)
          let values ← rest.mapM visit
          pure (value :: values)) = .error error ↔ rest.mapM visit = .error error := by
        cases rest.mapM visit with
        | error cause => exact Iff.rfl
        | ok values => exact ⟨nofun, nofun⟩
      rw [continues, inductionHypothesis]
      simp [Except.isOk, Except.toBool]

namespace Formula

variable {α β : Type}

/-- Converting leaves keeps the depth. -/
theorem depth_map (convert : α → β) (formula : Formula α) :
    (formula.map convert).depth = formula.depth := by
  induction formula with
  | leaf pattern => rfl
  | and left right leftHypothesis rightHypothesis
  | or left right leftHypothesis rightHypothesis =>
    simp [map, depth, leftHypothesis, rightHypothesis]
  | not operand inductionHypothesis => simp [map, depth, inductionHypothesis]

/-- The leaves after a conversion are the converted leaves. -/
theorem leaves_map (convert : α → β) (formula : Formula α) :
    (formula.map convert).leaves = formula.leaves.map convert := by
  induction formula with
  | leaf pattern => rfl
  | and left right leftHypothesis rightHypothesis
  | or left right leftHypothesis rightHypothesis =>
    simp [map, leaves, leftHypothesis, rightHypothesis]
  | not operand inductionHypothesis => simpa [map, leaves] using inductionHypothesis

/-- A conversion that tells leaves apart tells formulas apart. -/
theorem map_injective {convert : α → β}
    (injective : ∀ first second, convert first = convert second → first = second)
    {first second : Formula α} (same : first.map convert = second.map convert) :
    first = second := by
  induction first generalizing second with
  | leaf pattern =>
    cases second <;> simp only [map, leaf.injEq, reduceCtorEq] at same
    rw [injective _ _ same]
  | and left right leftHypothesis rightHypothesis =>
    cases second <;> simp only [map, and.injEq, reduceCtorEq] at same
    rw [leftHypothesis same.1, rightHypothesis same.2]
  | or left right leftHypothesis rightHypothesis =>
    cases second <;> simp only [map, or.injEq, reduceCtorEq] at same
    rw [leftHypothesis same.1, rightHypothesis same.2]
  | not operand inductionHypothesis =>
    cases second <;> simp only [map, not.injEq, reduceCtorEq] at same
    rw [inductionHypothesis same]

/-- A traversal has the effects of a loop over the leaves, and its results are the leaves of the
formula that it leads to. -/
theorem leaves_traverse {m : Type → Type} [Monad m] [LawfulMonad m] (visit : α → m β)
    (formula : Formula α) : leaves <$> formula.traverse visit = formula.leaves.mapM visit := by
  induction formula with
  | leaf pattern => simp [traverse, leaves]
  | and left right leftHypothesis rightHypothesis
  | or left right leftHypothesis rightHypothesis =>
    simp only [traverse, leaves, List.mapM_append, ← leftHypothesis, ← rightHypothesis]
    simp [leaves]
  | not operand inductionHypothesis =>
    simp only [traverse, leaves, ← inductionHypothesis]
    simp [leaves]

/-- A traversal that can fail reports the failure of the leftmost leaf that fails. -/
theorem traverse_eq_error_iff {ε : Type} {visit : α → Except ε β} {formula : Formula α}
    {error : ε} :
    formula.traverse visit = .error error ↔
      ∃ pattern, formula.leaves.find? (fun other => !(visit other).isOk) = some pattern ∧
        visit pattern = .error error := by
  rw [← mapM_eq_error_iff, ← leaves_traverse]
  cases formula.traverse visit with
  | error cause =>
    have kept : leaves <$> (.error cause : Except ε (Formula β)) = .error cause := rfl
    rw [kept, Except.error.injEq, Except.error.injEq]
  | ok converted => exact ⟨nofun, nofun⟩

/-- A traversal that fails nowhere keeps the shape of the formula. -/
theorem traverse_eq_ok {ε : Type} {visit : α → Except ε β} {convert : α → β}
    {formula : Formula α}
    (converts : ∀ pattern ∈ formula.leaves, visit pattern = .ok (convert pattern)) :
    formula.traverse visit = .ok (formula.map convert) := by
  induction formula with
  | leaf pattern =>
    have converted := converts pattern (List.mem_singleton.mpr rfl)
    simp only [traverse, converted]
    rfl
  | and left right leftHypothesis rightHypothesis
  | or left right leftHypothesis rightHypothesis =>
    have leftConverted := leftHypothesis fun pattern member =>
      converts pattern (List.mem_append_left _ member)
    have rightConverted := rightHypothesis fun pattern member =>
      converts pattern (List.mem_append_right _ member)
    simp only [traverse, leftConverted, rightConverted]
    rfl
  | not operand inductionHypothesis =>
    have converted := inductionHypothesis converts
    simp only [traverse, converted]
    rfl

/-- Whether a formula is true, given which of its leaves are. -/
def Holds (truth : α → Prop) : Formula α → Prop
  | leaf pattern => truth pattern
  | and left right => left.Holds truth ∧ right.Holds truth
  | or left right => left.Holds truth ∨ right.Holds truth
  | not operand => ¬operand.Holds truth

/-- Evaluating a formula decides it, also after its leaves were converted. -/
theorem eval_map_iff_holds {convert : α → β} {decides : β → Bool} {truth : α → Prop}
    (decided : ∀ pattern, decides (convert pattern) = true ↔ truth pattern)
    (formula : Formula α) :
    (formula.map convert).eval decides = true ↔ formula.Holds truth := by
  induction formula with
  | leaf pattern => exact decided pattern
  | and left right leftHypothesis rightHypothesis =>
    simp only [map, eval, Holds, Bool.and_eq_true, leftHypothesis, rightHypothesis]
  | or left right leftHypothesis rightHypothesis =>
    simp only [map, eval, Holds, Bool.or_eq_true, leftHypothesis, rightHypothesis]
  | not operand inductionHypothesis =>
    rw [Holds, ← inductionHypothesis, map, eval, Bool.not_eq_true', Bool.not_eq_true]

end Formula

end LinkSieve.Expression
