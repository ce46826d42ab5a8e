import LinkSieve.Proofs.Steps
import LinkSieve.Proofs.Expression.Formula
/-!
# Traversals step by step

A traversal calls a conversion on the leaves of a formula. The conversion may work on a state and it may
fail. Its calls follow each other from left to right, each of them begins in the state that the one
before it reached, and none follows one that fails.

Which calls were made is told by a record. The recording conversion does what the conversion does and
writes down what it was called on. It sees every call, also those that leave the state as it is.
-/

namespace LinkSieve.Expression

variable {σ ε α β : Type}

/-- The calls of a conversion on items, one after the other, succeed. They lead from one state to
another, with the results in the order of the items. -/
inductive Converts (visit : α → ExceptT ε (StateM σ) β) : σ → List α → List β → σ → Prop where
  | done (state : σ) : Converts visit state [] [] state
  | next {state between final : σ} {item : α} {items : List α} {result : β} {results : List β}
      (called : (visit item).run state = (.ok result, between))
      (rest : Converts visit between items results final) :
      Converts visit state (item :: items) (result :: results) final

section Loop

variable {visit : α → ExceptT ε (StateM σ) β} {items : List α} {state final : σ}

/-- A loop succeeds exactly if all its calls do. -/
theorem run_mapM_eq_ok_iff {results : List β} :
    (items.mapM visit).run state = (.ok results, final) ↔
      Converts visit state items results final := by
  constructor
  · intro succeeds
    induction items generalizing state results with
    | nil =>
      rw [List.mapM_nil] at succeeds
      cases succeeds
      exact .done final
    | cons item items inductionHypothesis =>
      rw [List.mapM_cons] at succeeds
      obtain ⟨result, between, called, continues⟩ := exists_of_run_bind_eq_ok succeeds
      obtain ⟨others, after, rest, finished⟩ := exists_of_run_bind_eq_ok continues
      cases finished
      exact .next called (inductionHypothesis rest)
  · intro converts
    induction converts with
    | done state =>
      rw [List.mapM_nil]
      rfl
    | next called _ inductionHypothesis =>
      rw [List.mapM_cons, run_bind_of_ok called, run_bind_of_ok inductionHypothesis]
      rfl

/-- A loop fails exactly if a call does, after successful calls on the items before it. The items after
it do not matter. -/
theorem run_mapM_eq_error_iff {error : ε} :
    (items.mapM visit).run state = (.error error, final) ↔
      ∃ before item after results between, items = before ++ item :: after ∧
        Converts visit state before results between ∧
          (visit item).run between = (.error error, final) := by
  constructor
  · intro fails
    induction items generalizing state with
    | nil =>
      rw [List.mapM_nil] at fails
      cases fails
    | cons item items inductionHypothesis =>
      rw [List.mapM_cons] at fails
      rcases error_or_exists_of_run_bind fails with failed | ⟨result, between, called, continues⟩
      · exact ⟨[], item, items, [], state, rfl, .done state, failed⟩
      rcases error_or_exists_of_run_bind continues with failed | ⟨others, after, rest, finished⟩
      · obtain ⟨before, last, after, results, reached, rfl, converts, failed⟩ :=
          inductionHypothesis failed
        exact ⟨item :: before, last, after, result :: results, reached, rfl, .next called converts,
          failed⟩
      -- Putting the results together cannot fail.
      · cases finished
  · rintro ⟨before, item, after, results, between, rfl, converts, failed⟩
    induction converts with
    | done state => rw [List.nil_append, List.mapM_cons, run_bind_of_error failed]
    | next called _ inductionHypothesis =>
      rw [List.cons_append, List.mapM_cons, run_bind_of_ok called,
        run_bind_of_error (inductionHypothesis failed)]

end Loop

namespace Formula

/-- The connectives of a formula, without its patterns. -/
def shape (formula : Formula α) : Formula Unit := formula.map fun _ => ()

/-- The shape of an AND. -/
@[simp]
theorem shape_and (left right : Formula α) : (and left right).shape = and left.shape right.shape := rfl

/-- The shape of an OR. -/
@[simp]
theorem shape_or (left right : Formula α) : (or left right).shape = or left.shape right.shape := rfl

/-- The shape of a NOT. -/
@[simp]
theorem shape_not (operand : Formula α) : (not operand).shape = not operand.shape := rfl

/-- Formulas of one shape have the same number of leaves. -/
theorem length_leaves_eq {first : Formula α} {second : Formula β}
    (sameShape : first.shape = second.shape) : first.leaves.length = second.leaves.length := by
  have sameLeaves := congrArg (fun formula => formula.leaves.length) sameShape
  simpa only [shape, leaves_map, List.length_map] using sameLeaves

/-- A formula is given by its shape and its leaves. The induction is on the first formula: the leaves of
a left operand are as many in both formulas, so both lists of leaves part at the same place. -/
theorem eq_of_shape_of_leaves {first second : Formula α} (sameShape : first.shape = second.shape)
    (sameLeaves : first.leaves = second.leaves) : first = second := by
  induction first generalizing second with
  | leaf pattern =>
    cases second with
    | leaf other => rw [List.singleton_inj.mp sameLeaves]
    | and | or | not => cases sameShape
  | and left right leftHypothesis rightHypothesis =>
    cases second with
    | and otherLeft otherRight =>
      obtain ⟨leftShape, rightShape⟩ := Formula.and.inj sameShape
      obtain ⟨leftLeaves, rightLeaves⟩ := List.append_inj sameLeaves (length_leaves_eq leftShape)
      rw [leftHypothesis leftShape leftLeaves, rightHypothesis rightShape rightLeaves]
    | leaf | or | not => cases sameShape
  | or left right leftHypothesis rightHypothesis =>
    cases second with
    | or otherLeft otherRight =>
      obtain ⟨leftShape, rightShape⟩ := Formula.or.inj sameShape
      obtain ⟨leftLeaves, rightLeaves⟩ := List.append_inj sameLeaves (length_leaves_eq leftShape)
      rw [leftHypothesis leftShape leftLeaves, rightHypothesis rightShape rightLeaves]
    | leaf | and | not => cases sameShape
  | not operand inductionHypothesis =>
    cases second with
    | not other => rw [inductionHypothesis (Formula.not.inj sameShape) sameLeaves]
    | leaf | and | or => cases sameShape

section Run

variable {visit : α → ExceptT ε (StateM σ) β} {formula : Formula α} {state final : σ}

/-- A traversal that succeeds keeps the shape of the formula. -/
theorem shape_of_run_traverse {converted : Formula β}
    (succeeds : (formula.traverse visit).run state = (.ok converted, final)) :
    converted.shape = formula.shape := by
  induction formula generalizing state converted final with
  | leaf pattern =>
    obtain ⟨result, after, -, finished⟩ := exists_of_run_bind_eq_ok succeeds
    cases finished
    rfl
  | and left right leftHypothesis rightHypothesis
  | or left right leftHypothesis rightHypothesis =>
    obtain ⟨newLeft, between, leftSucceeds, continues⟩ := exists_of_run_bind_eq_ok succeeds
    obtain ⟨newRight, after, rightSucceeds, finished⟩ := exists_of_run_bind_eq_ok continues
    cases finished
    simp only [shape_and, shape_or, leftHypothesis leftSucceeds, rightHypothesis rightSucceeds]
  | not operand inductionHypothesis =>
    obtain ⟨newOperand, after, operandSucceeds, finished⟩ := exists_of_run_bind_eq_ok succeeds
    cases finished
    rw [shape_not, shape_not, inductionHypothesis operandSucceeds]

/-- A traversal succeeds exactly if the calls on all leaves do. It leads to the formula of the same
shape whose leaves are their results. -/
theorem run_traverse_eq_ok_iff {converted : Formula β} :
    (formula.traverse visit).run state = (.ok converted, final) ↔
      converted.shape = formula.shape ∧
        Converts visit state formula.leaves converted.leaves final := by
  rw [← run_mapM_eq_ok_iff, ← leaves_traverse, run_map_apply]
  constructor
  · intro succeeds
    refine ⟨shape_of_run_traverse succeeds, ?_⟩
    rw [succeeds]
    rfl
  · rintro ⟨sameShape, succeeds⟩
    cases traversed : (formula.traverse visit).run state with
    | mk answer after =>
      rw [traversed] at succeeds
      cases answer with
      | error cause => cases (Prod.mk.inj succeeds).1
      | ok other =>
        -- What the traversal leads to has the shape and the leaves of `converted`.
        obtain ⟨sameLeaves, rfl⟩ := Prod.mk.inj succeeds
        have otherShape : other.shape = converted.shape :=
          (shape_of_run_traverse traversed).trans sameShape.symm
        rw [eq_of_shape_of_leaves otherShape (Except.ok.inj sameLeaves)]

/-- A traversal fails exactly if the call on a leaf does, after successful calls on the leaves before
it. -/
theorem run_traverse_eq_error_iff {error : ε} :
    (formula.traverse visit).run state = (.error error, final) ↔
      ∃ before pattern after results between, formula.leaves = before ++ pattern :: after ∧
        Converts visit state before results between ∧
          (visit pattern).run between = (.error error, final) := by
  rw [← run_mapM_eq_error_iff, ← leaves_traverse, run_map_apply]
  cases (formula.traverse visit).run state with
  | mk answer after =>
    cases answer with
    | error cause =>
      constructor
      · intro same
        cases same
        rfl
      · intro same
        cases same
        rfl
    | ok converted =>
      constructor
      · intro same
        cases same
      · intro same
        cases same

end Run

end Formula

/-- The conversion with a record of its calls: what it was called on, the last one at the end. -/
def recording (visit : α → ExceptT ε (StateM σ) β) (item : α) :
    ExceptT ε (StateM (σ × List α)) β :=
  ExceptT.mk fun (state, log) =>
    let (answer, state) := (visit item).run state
    (answer, (state, log ++ [item]))

section Recording

variable {visit : α → ExceptT ε (StateM σ) β} {state final : σ} {log called : List α}

/-- A recorded call is the call, and it is written down. -/
theorem run_recording_eq_iff {item : α} {answer : Except ε β} :
    (recording visit item).run (state, log) = (answer, (final, called)) ↔
      (visit item).run state = (answer, final) ∧ called = log ++ [item] := by
  have run : (recording visit item).run (state, log) =
      (((visit item).run state).1, (((visit item).run state).2, log ++ [item])) := rfl
  rw [run]
  constructor
  · intro same
    obtain ⟨sameAnswer, sameState⟩ := Prod.mk.inj same
    obtain ⟨sameFinal, sameLog⟩ := Prod.mk.inj sameState
    exact ⟨Prod.ext sameAnswer sameFinal, sameLog.symm⟩
  · rintro ⟨same, rfl⟩
    rw [same]

/-- Recorded calls that succeed are the calls that succeed, and all their items are written down. -/
theorem converts_recording_iff {items : List α} {results : List β} :
    Converts (recording visit) (state, log) items results (final, called) ↔
      Converts visit state items results final ∧ called = log ++ items := by
  induction items generalizing state log results with
  | nil =>
    constructor
    · intro converts
      cases converts
      exact ⟨.done final, (List.append_nil called).symm⟩
    · rintro ⟨converts, rfl⟩
      cases converts
      rw [List.append_nil]
      exact .done (final, log)
  | cons item items inductionHypothesis =>
    constructor
    · intro converts
      cases converts with
      | @next _ between _ _ _ result others first rest =>
        obtain ⟨reached, written⟩ := between
        obtain ⟨called, rfl⟩ := run_recording_eq_iff.mp first
        obtain ⟨converts, rfl⟩ := inductionHypothesis.mp rest
        exact ⟨.next called converts, List.append_assoc log [item] items⟩
    · rintro ⟨converts, rfl⟩
      cases converts with
      | next called rest =>
        have written := inductionHypothesis.mpr ⟨rest, (List.append_assoc log [item] items).symm⟩
        exact .next (run_recording_eq_iff.mpr ⟨called, rfl⟩) written

end Recording

namespace Formula

section Recording

variable {visit : α → ExceptT ε (StateM σ) β} {formula : Formula α} {state final : σ}
  {log called : List α}

/-- Where a recorded traversal succeeds, the conversion was called on all leaves. -/
theorem run_traverse_recording_eq_ok_iff {converted : Formula β} :
    (formula.traverse (recording visit)).run (state, log) = (.ok converted, (final, called)) ↔
      called = log ++ formula.leaves ∧ converted.shape = formula.shape ∧
        Converts visit state formula.leaves converted.leaves final := by
  rw [run_traverse_eq_ok_iff, converts_recording_iff]
  exact and_rotate.symm

/-- Where a recorded traversal fails, the conversion was called on the leaves up to one on which it
fails, and on no others. -/
theorem run_traverse_recording_eq_error_iff {error : ε} :
    (formula.traverse (recording visit)).run (state, log) = (.error error, (final, called)) ↔
      ∃ before pattern after results between, formula.leaves = before ++ pattern :: after ∧
        called = log ++ (before ++ [pattern]) ∧ Converts visit state before results between ∧
          (visit pattern).run between = (.error error, final) := by
  rw [run_traverse_eq_error_iff]
  constructor
  · rintro ⟨before, pattern, after, results, ⟨between, written⟩, parts, recorded, stopped⟩
    obtain ⟨converts, rfl⟩ := converts_recording_iff.mp recorded
    obtain ⟨failed, rfl⟩ := run_recording_eq_iff.mp stopped
    exact ⟨before, pattern, after, results, between, parts, List.append_assoc log before [pattern],
      converts, failed⟩
  · rintro ⟨before, pattern, after, results, between, parts, rfl, converts, failed⟩
    have recorded := run_recording_eq_iff.mpr
      ⟨failed, (List.append_assoc log before [pattern]).symm⟩
    exact ⟨before, pattern, after, results, (between, log ++ before), parts,
      converts_recording_iff.mpr ⟨converts, rfl⟩, recorded⟩

/-- The record makes no difference to a traversal. -/
theorem run_traverse_eq_recording :
    (formula.traverse visit).run state =
      Prod.map id Prod.fst ((formula.traverse (recording visit)).run (state, log)) := by
  cases recorded : (formula.traverse (recording visit)).run (state, log) with
  | mk answer reached =>
    obtain ⟨final, called⟩ := reached
    cases answer with
    | ok converted =>
      obtain ⟨-, sameShape, converts⟩ := run_traverse_recording_eq_ok_iff.mp recorded
      exact run_traverse_eq_ok_iff.mpr ⟨sameShape, converts⟩
    | error error =>
      obtain ⟨before, pattern, after, results, between, parts, -, converts, failed⟩ :=
        run_traverse_recording_eq_error_iff.mp recorded
      exact run_traverse_eq_error_iff.mpr
        ⟨before, pattern, after, results, between, parts, converts, failed⟩

end Recording

/-- A traversal calls the conversion on the leaves from left to right, on each of them once, and stops
at the first call that fails.

It succeeds exactly if the calls on all leaves do. What it leads to has the shape of the formula, and
its leaves are the results in their order. It fails exactly if the call on a leaf does, after successful
calls on the leaves before it. Then its error is that of the call, and no leaf after it is visited. Each
call begins in the state that the one before it reached, and the traversal ends in the state that the
last call reached. That the calls are recorded makes no difference. -/
theorem traverse_visits_in_order (visit : α → ExceptT ε (StateM σ) β) (formula : Formula α)
    (state : σ) :
    (∀ converted final called,
      (formula.traverse (recording visit)).run (state, []) = (.ok converted, (final, called)) ↔
        called = formula.leaves ∧ converted.shape = formula.shape ∧
          Converts visit state formula.leaves converted.leaves final) ∧
    (∀ error final called,
      (formula.traverse (recording visit)).run (state, []) = (.error error, (final, called)) ↔
        ∃ before pattern after results between, formula.leaves = before ++ pattern :: after ∧
          called = before ++ [pattern] ∧ Converts visit state before results between ∧
            (visit pattern).run between = (.error error, final)) ∧
    (formula.traverse visit).run state =
      Prod.map id Prod.fst ((formula.traverse (recording visit)).run (state, [])) := by
  refine ⟨?_, ?_, run_traverse_eq_recording⟩
  · intro converted final called
    exact run_traverse_recording_eq_ok_iff
  · intro error final called
    exact run_traverse_recording_eq_error_iff

example : ((Formula.and (.leaf 3) (.or (.leaf 0) (.leaf 5))).traverse (recording fun divisor =>
    if divisor = 0 then throw "zero" else return 60 / divisor)).run ((), []) =
      (.error "zero", ((), [3, 0])) := by
  rfl

end Formula

end LinkSieve.Expression
