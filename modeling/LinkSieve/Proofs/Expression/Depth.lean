import LinkSieve.Proofs.Expression.Acceptance
import LinkSieve.Proofs.Expression.Nesting
import LinkSieve.Proofs.Expression.Scan
/-!
# Levels too many

The parser reports a level too many as soon as it meets one, while the rest of the tokens may still
decide where operands end. The report is final all the same. It points at a token that opens a level
or joins operands, and no further tokens make an expression of those that led to it: what waits for
an operand can only become deeper.

The report is no false alarm either. The number of parentheses and prefix NOTs that are open around
a token is a matter of the tokens alone, as the formula is. So whether a token sequence of the
grammar is refused depends on nothing else than its depth and its nesting.
-/

namespace LinkSieve.Expression

open Reader (openAround)

/-- A fold fails at one of its elements, after those before it have led to a state. -/
theorem exists_of_foldlM_eq_error {ε α σ : Type} {step : σ → α → Except ε σ} {start : σ}
    {list : List α} {error : ε} (failed : list.foldlM step start = .error error) :
    ∃ before next after state, list = before ++ next :: after ∧
      before.foldlM step start = .ok state ∧ step state next = .error error := by
  induction list generalizing start with
  | nil => cases failed
  | cons head rest inductionHypothesis =>
    rw [List.foldlM_cons] at failed
    rcases error_of_bind_eq_error failed with atHead | ⟨stepped, passed, inRest⟩
    · exact ⟨[], head, rest, start, rfl, rfl, atHead⟩
    · obtain ⟨before, next, after, state, rfl, led, atNext⟩ := inductionHypothesis inRest
      refine ⟨head :: before, next, after, state, rfl, ?_, atNext⟩
      rw [List.foldlM_cons, passed]
      exact led

/-! ## Where a level too many is reported -/

/-- A token at byte `position` that opens a level or joins operands: a parenthesis to open, or an
operator. -/
def DeepensAt (tokens : List Spanned) (position : Nat) : Prop :=
  ∃ spanned ∈ tokens, spanned.offset = position ∧
    (spanned.token = .opening ∨ ∃ symbol, spanned.token = .operator symbol)

/-- Further tokens do not take such a token away. -/
theorem DeepensAt.mono {tokens others : List Spanned} {position : Nat}
    (deepens : DeepensAt tokens position) (among : tokens ⊆ others) :
    DeepensAt others position := by
  obtain ⟨spanned, member, kind⟩ := deepens
  exact ⟨spanned, among member, kind⟩

/-- An operator that waits on a level stands at byte `position`. -/
def Level.WaitsAt (level : Level) (position : Nat) : Prop :=
  position ∈ level.negations ∨
    (∃ waiting, level.conjunction = some waiting ∧ waiting.position = position) ∨
    ∃ waiting, level.disjunction = some waiting ∧ waiting.position = position

section Blame

variable {limit : Nat} {operand : Operand} {error : ParseError}

/-- A depth check that fails blames the given position, and the operand is too deep. -/
theorem error_of_within {position : Nat}
    (failed : operand.within limit position = .error error) :
    error.position = position ∧ limit < operand.depth := by
  unfold Operand.within at failed
  split at failed
  next => cases failed
  next tooDeep =>
    cases failed
    exact ⟨rfl, Nat.lt_of_not_le tooDeep⟩

/-- Negating an operand blames a NOT that waits for it. -/
theorem position_of_negate {negations : List Nat}
    (failed : Level.negate limit negations operand = .error error) :
    error.position ∈ negations := by
  induction negations generalizing operand with
  | nil => cases failed
  | cons position outer inductionHypothesis =>
    rcases error_of_bind_eq_error failed with atHead | ⟨negated, _, inOuter⟩
    · exact (error_of_within atHead).1 ▸ List.mem_cons_self
    · exact List.mem_cons_of_mem position (inductionHypothesis inOuter)

/-- Joining an operand to an AND or a NOT blames that operator. -/
theorem position_of_conjoin {conjunction : Option Conjunction}
    (failed : Level.conjoin limit conjunction operand = .error error) :
    ∃ waiting, conjunction = some waiting ∧ waiting.position = error.position := by
  cases conjunction with
  | none => cases failed
  | some waiting =>
    refine ⟨waiting, rfl, ?_⟩
    obtain ⟨left, negated, position⟩ := waiting
    cases negated with
    | false =>
      have joining : (left.and operand).within limit position = .error error := failed
      exact (error_of_within joining).1.symm
    | true =>
      rcases error_of_bind_eq_error failed with negating | ⟨right, _, joining⟩
      · exact (error_of_within negating).1.symm
      · exact (error_of_within joining).1.symm

/-- Joining an operand to an OR blames that operator, and one of its operands is as deep as a
formula may be. -/
theorem error_of_disjoin {disjunction : Option Disjunction}
    (failed : Level.disjoin limit disjunction operand = .error error) :
    ∃ waiting, disjunction = some waiting ∧ waiting.position = error.position ∧
      (limit ≤ waiting.left.depth ∨ limit ≤ operand.depth) := by
  cases disjunction with
  | none => cases failed
  | some waiting =>
    obtain ⟨blamed, tooDeep⟩ := error_of_within failed
    have joined : (waiting.left.or operand).depth = max waiting.left.depth operand.depth + 1 := rfl
    exact ⟨waiting, rfl, blamed.symm, by omega⟩

/-- Taking an operand blames an operator that waits on the level. -/
theorem waitsAt_of_take {enclosing : List (Nat × Level)} {level : Level}
    (failed : Reader.take limit enclosing level operand = .error error) :
    level.WaitsAt error.position := by
  rcases error_of_bind_eq_error failed with negating | ⟨negated, _, rest⟩
  · exact Or.inl (position_of_negate negating)
  · rcases error_of_bind_eq_error rest with conjoining | ⟨_, _, done⟩
    · exact Or.inr (Or.inl (position_of_conjoin conjoining))
    · cases done

/-- Entering a parenthesis or prefix NOT blames the token that would open it. -/
theorem position_of_enter {reader entered : Reader} {position : Nat}
    (failed : reader.enter limit position entered = .error error) : error.position = position := by
  unfold Reader.enter at failed
  split at failed
  next => cases failed
  next => cases failed; rfl

end Blame

namespace Derivation

variable {limit outer : Nat}

/-- A NOT that waits was read. -/
theorem deepensAt_of_readNegations {negations : List Nat} {tokens : List Spanned}
    (read : ReadNegations negations tokens) {position : Nat} (member : position ∈ negations) :
    DeepensAt tokens position := by
  induction read with
  | none => cases member
  | @not negations tokens earlier span inductionHypothesis =>
    rcases List.mem_cons.mp member with rfl | inEarlier
    · exact ⟨span.holds (.operator .not), by simp, rfl, Or.inr ⟨_, rfl⟩⟩
    · exact (inductionHypothesis inEarlier).mono (List.subset_append_left _ _)

/-- An AND or a NOT between operands that waits was read. -/
theorem deepensAt_of_readConjunction {waiting : Conjunction} {tokens : List Spanned}
    (read : ReadConjunction limit outer (some waiting) tokens) :
    DeepensAt tokens waiting.position := by
  cases read with
  | and left span fits => exact ⟨span.holds (.operator .and), by simp, rfl, Or.inr ⟨_, rfl⟩⟩
  | andNot left span fits => exact ⟨span.holds (.operator .not), by simp, rfl, Or.inr ⟨_, rfl⟩⟩

/-- An OR that waits was read. -/
theorem deepensAt_of_readDisjunction {waiting : Disjunction} {tokens : List Spanned}
    (read : ReadDisjunction limit outer (some waiting) tokens) :
    DeepensAt tokens waiting.position := by
  cases read with
  | or left span fits => exact ⟨span.holds (.operator .or), by simp, rfl, Or.inr ⟨_, rfl⟩⟩

/-- Every operator that waits on a level is among the tokens of the level. -/
theorem deepensAt_of_readLevel {level : Level} {tokens : List Spanned}
    (read : ReadLevel limit outer level tokens) {position : Nat}
    (waits : level.WaitsAt position) : DeepensAt tokens position := by
  obtain ⟨disjunctionRead, conjunctionRead, negationsRead⟩ := read
  rcases waits with negation | ⟨waiting, rfl, rfl⟩ | ⟨waiting, rfl, rfl⟩
  · exact (deepensAt_of_readNegations negationsRead negation).mono (List.subset_append_right _ _)
  · exact (deepensAt_of_readConjunction conjunctionRead).mono (by simp)
  · exact (deepensAt_of_readDisjunction disjunctionRead).mono (by simp)

/-- Where the OR that waits takes an operand, the failure blames that OR, or it comes afterwards. -/
theorem deepensAt_or_of_disjoin {α : Type} {disjunction : Option Disjunction}
    {tokens : List Spanned} (read : ReadDisjunction limit outer disjunction tokens)
    {operand : Operand} {next : Operand → Except ParseError α} {error : ParseError}
    (failed : (Level.disjoin limit disjunction operand >>= next) = .error error) :
    DeepensAt tokens error.position ∨ ∃ whole, next whole = .error error := by
  rcases error_of_bind_eq_error failed with joining | ⟨whole, _, afterwards⟩
  · obtain ⟨waiting, rfl, blamed, -⟩ := error_of_disjoin joining
    exact Or.inl (blamed ▸ deepensAt_of_readDisjunction read)
  · exact Or.inr ⟨whole, afterwards⟩

/-- A step that reports a level too many blames a token that was read, or the one that it reads. -/
theorem deepensAt_of_step {reader : Reader} {tokens : List Spanned} {next : Spanned}
    {position : Nat} (read : Read limit reader tokens)
    (failed : reader.step limit next = .error ⟨position, .tooDeep⟩) :
    DeepensAt (tokens ++ [next]) position := by
  obtain ⟨token, offset, stop⟩ := next
  cases read with
  | @wanting enclosing level before tokens enclosingRead levelRead room blame =>
    cases token with
    | pattern text =>
      simp only [Reader.step, Reader.readOperand] at failed
      split at failed
      next => cases failed
      next =>
        exact (deepensAt_of_readLevel levelRead (waitsAt_of_take failed)).mono (by simp)
    | opening =>
      obtain rfl : position = offset := position_of_enter failed
      exact ⟨⟨.opening, position, stop⟩, by simp, rfl, Or.inl rfl⟩
    | closing => cases blame <;> cases failed
    | operator symbol =>
      cases symbol with
      | and => cases failed
      | or => cases failed
      | not =>
        obtain rfl : position = offset := position_of_enter failed
        exact ⟨⟨.operator .not, position, stop⟩, by simp, rfl, Or.inr ⟨_, rfl⟩⟩
  | @holding enclosing disjunction before between enclosingRead disjunctionRead held fits =>
    cases token with
    | pattern text =>
      rcases deepensAt_or_of_disjoin disjunctionRead failed with blamed | ⟨_, rest⟩
      · exact blamed.mono (by simp)
      · cases rest
    | opening =>
      rcases deepensAt_or_of_disjoin disjunctionRead failed with blamed | ⟨_, rest⟩
      · exact blamed.mono (by simp)
      · cases rest
    | closing =>
      rcases deepensAt_or_of_disjoin disjunctionRead failed with blamed | ⟨inner, rest⟩
      · exact blamed.mono (by simp)
      · -- The operand between the parentheses is taken on the level around them.
        cases enclosingRead with
        | none => cases rest
        | opening enclosingRead levelRead span =>
          exact (deepensAt_of_readLevel levelRead (waitsAt_of_take rest)).mono (by simp)
    | operator symbol =>
      cases symbol with
      | and => cases failed
      | not => cases failed
      | or =>
        rcases deepensAt_or_of_disjoin disjunctionRead failed with blamed | ⟨_, rest⟩
        · exact blamed.mono (by simp)
        · cases rest

/-- At the end of the tokens the OR is blamed that takes the last operand. -/
theorem deepensAt_of_finish {reader : Reader} {tokens : List Spanned} {stop position : Nat}
    (read : Read limit reader tokens)
    (failed : reader.finish limit stop = .error ⟨position, .tooDeep⟩) :
    DeepensAt tokens position := by
  cases read with
  | wanting enclosingRead levelRead room blame => cases blame <;> cases failed
  | holding enclosingRead disjunctionRead held fits =>
    rcases deepensAt_or_of_disjoin disjunctionRead failed with blamed | ⟨_, rest⟩
    · exact blamed.mono (by simp)
    · cases enclosingRead <;> cases rest

/-- A level too many is blamed on one of the tokens. -/
theorem deepensAt_of_parseWithin (positive : 0 < limit) {tokens : List Spanned} {position : Nat}
    (failed : parseWithin limit tokens = .error ⟨position, .tooDeep⟩) :
    DeepensAt tokens position := by
  unfold parseWithin at failed
  split at failed
  next => cases failed
  next last _ =>
    rcases error_of_bind_eq_error failed with early | ⟨reader, run, atEnd⟩
    · obtain ⟨before, next, after, reader, rfl, led, atNext⟩ := exists_of_foldlM_eq_error early
      have read := foldlM_step_read positive before start_read led
      exact (deepensAt_of_step read atNext).mono (by simp)
    · have read := foldlM_step_read positive tokens start_read run
      exact deepensAt_of_finish read atEnd

end Derivation

/-! ## What follows a level too many -/

/-- An OR that waits on the level will have an operand that is as deep as a formula may be, or
has it. -/
def Level.Full (limit : Nat) (level : Level) : Prop :=
  ∃ waiting, level.disjunction = some waiting ∧ (limit ≤ waiting.left.depth ∨
    ∃ joining, level.conjunction = some joining ∧ limit ≤ joining.left.depth)

/-- A reader that can no longer come to a formula, because an OR that waits somewhere will be too
deep. -/
inductive Reader.Doomed (limit : Nat) (reader : Reader) : Prop where
  | enclosing {opened : Nat × Level} (member : opened ∈ reader.enclosing)
      (full : opened.2.Full limit)
  | wanting {blame : Option (Operator × Nat)} (wants : reader.mode = .wanting blame)
      (full : reader.level.Full limit)
  | holding {operand : Operand} {waiting : Disjunction} (holds : reader.mode = .holding operand)
      (waits : reader.level.disjunction = some waiting)
      (deep : limit ≤ waiting.left.depth ∨ limit ≤ operand.depth)

section Doomed

variable {limit : Nat}

/-- An OR does not take an operand if one of its two is as deep as a formula may be. -/
theorem disjoin_ne_ok {disjunction : Option Disjunction} {waiting : Disjunction}
    {operand joined : Operand} (waits : disjunction = some waiting)
    (deep : limit ≤ waiting.left.depth ∨ limit ≤ operand.depth) :
    Level.disjoin limit disjunction operand ≠ .ok joined := by
  rintro ok
  subst waits
  have notDeep := (Derivation.within_ok ok).2
  rw [← Operand.depth_eq] at notDeep
  have deeper : (waiting.left.or operand).depth = max waiting.left.depth operand.depth + 1 := rfl
  omega

/-- An operand that takes part in a conjunction makes it deeper than the left operand. -/
theorem depth_of_conjoin {waiting : Conjunction} {operand joined : Operand}
    (ok : Level.conjoin limit (some waiting) operand = .ok joined) :
    waiting.left.depth < joined.depth := by
  obtain ⟨left, negated, position⟩ := waiting
  have deeper {right : Operand} (ok : (left.and right).within limit position = .ok joined) :
      left.depth < joined.depth := by
    rw [(Derivation.within_ok ok).1]
    have depth : (left.and right).depth = max left.depth right.depth + 1 := rfl
    omega
  cases negated with
  | false => exact deeper ok
  | true =>
    obtain ⟨right, _, joining⟩ := exists_of_bind_eq_ok ok
    exact deeper joining

/-- A level that is full stays so when an operand is taken on it. -/
theorem doomed_of_take {enclosing : List (Nat × Level)} {level : Level} {operand : Operand}
    {reader : Reader} (full : level.Full limit)
    (ok : Reader.take limit enclosing level operand = .ok reader) : reader.Doomed limit := by
  obtain ⟨waiting, waits, deep⟩ := full
  obtain ⟨negated, _, rest⟩ := exists_of_bind_eq_ok ok
  obtain ⟨conjoined, conjoining, held⟩ := exists_of_bind_eq_ok rest
  cases held
  refine .holding rfl waits ?_
  rcases deep with leftDeep | ⟨joining, joins, deep⟩
  · exact Or.inl leftDeep
  · rw [joins] at conjoining
    exact Or.inr (Nat.le_trans deep (Nat.le_of_lt (depth_of_conjoin conjoining)))

/-- What encloses a level is not touched when an operand is taken on the level. -/
theorem enclosing_of_take {enclosing : List (Nat × Level)} {level : Level} {operand : Operand}
    {reader : Reader} (ok : Reader.take limit enclosing level operand = .ok reader) :
    reader.enclosing = enclosing := by
  obtain ⟨negated, _, rest⟩ := exists_of_bind_eq_ok ok
  obtain ⟨conjoined, _, held⟩ := exists_of_bind_eq_ok rest
  cases held
  rfl

/-- A reader that wants an operand stays doomed. -/
theorem doomed_of_readOperand {enclosing : List (Nat × Level)} {level : Level}
    {blame : Option (Operator × Nat)} {next : Spanned} {result : Reader}
    (doomed : Reader.Doomed limit ⟨enclosing, level, .wanting blame⟩)
    (ok : Reader.readOperand limit ⟨enclosing, level, .wanting blame⟩ blame next = .ok result) :
    result.Doomed limit := by
  obtain ⟨token, offset, stop⟩ := next
  cases token with
  | pattern text =>
    simp only [Reader.readOperand] at ok
    split at ok
    next => cases ok
    next =>
      cases doomed with
      | enclosing member full => exact .enclosing (enclosing_of_take ok ▸ member) full
      | wanting wants full => exact doomed_of_take full ok
      | holding holds => cases holds
  | opening =>
    obtain ⟨rfl, -⟩ := Derivation.enter_ok ok
    cases doomed with
    | enclosing member full => exact .enclosing (List.mem_cons_of_mem _ member) full
    | wanting wants full => exact .enclosing List.mem_cons_self full
    | holding holds => cases holds
  | closing => cases blame <;> cases ok
  | operator symbol =>
    cases symbol with
    | and => cases ok
    | or => cases ok
    | not =>
      obtain ⟨rfl, -⟩ := Derivation.enter_ok ok
      cases doomed with
      | enclosing member full => exact .enclosing member full
      | wanting wants full => exact .wanting rfl full
      | holding holds => cases holds

/-- A reader that holds an operand stays doomed. -/
theorem doomed_of_readOperator {enclosing : List (Nat × Level)} {level : Level}
    {operand : Operand} {next : Spanned} {result : Reader}
    (doomed : Reader.Doomed limit ⟨enclosing, level, .holding operand⟩)
    (ok : Reader.readOperator limit ⟨enclosing, level, .holding operand⟩ operand next =
      .ok result) :
    result.Doomed limit := by
  obtain ⟨token, offset, stop⟩ := next
  -- Where the OR of this level has to take the operand first, only a level outside can be full.
  have outside {joined : Operand} (joins : Level.disjoin limit level.disjunction operand =
      .ok joined) : ∃ opened ∈ enclosing, opened.2.Full limit := by
    cases doomed with
    | enclosing member full => exact ⟨_, member, full⟩
    | wanting wants => cases wants
    | holding holds waits deep =>
      cases holds
      exact absurd joins (disjoin_ne_ok waits deep)
  have awaits (negated : Bool) (blame : Option (Operator × Nat)) :
      Reader.Doomed limit ⟨enclosing, { level with
        conjunction := some ⟨operand, negated, offset⟩ }, .wanting blame⟩ := by
    cases doomed with
    | enclosing member full => exact .enclosing member full
    | wanting wants => cases wants
    | @holding _ waiting holds waits deep =>
      cases holds
      exact .wanting rfl ⟨waiting, waits, deep.imp_right fun rightDeep => ⟨_, rfl, rightDeep⟩⟩
  cases token with
  | pattern text =>
    obtain ⟨_, _, failed⟩ := exists_of_bind_eq_ok ok
    cases failed
  | opening =>
    obtain ⟨_, _, failed⟩ := exists_of_bind_eq_ok ok
    cases failed
  | closing =>
    obtain ⟨inner, joins, rest⟩ := exists_of_bind_eq_ok ok
    obtain ⟨opened, member, full⟩ := outside joins
    cases enclosing with
    | nil => cases rest
    | cons innermost enclosing =>
      rcases List.mem_cons.mp member with rfl | further
      · exact doomed_of_take full rest
      · exact .enclosing (enclosing_of_take rest ▸ further) full
  | operator symbol =>
    cases symbol with
    | and =>
      cases ok
      exact awaits false _
    | not =>
      cases ok
      exact awaits true _
    | or =>
      obtain ⟨left, joins, rest⟩ := exists_of_bind_eq_ok ok
      obtain ⟨opened, member, full⟩ := outside joins
      cases rest
      exact .enclosing member full

/-- Every step of a doomed reader leads to a doomed reader, if to any. -/
theorem doomed_of_step {reader result : Reader} {next : Spanned} (doomed : reader.Doomed limit)
    (ok : reader.step limit next = .ok result) : result.Doomed limit := by
  obtain ⟨enclosing, level, mode⟩ := reader
  cases mode with
  | wanting blame => exact doomed_of_readOperand doomed ok
  | holding operand => exact doomed_of_readOperator doomed ok

/-- So does every run of steps. The induction is on the tokens. -/
theorem doomed_of_foldlM {reader result : Reader} {tokens : List Spanned}
    (doomed : reader.Doomed limit) (ok : tokens.foldlM (Reader.step limit) reader = .ok result) :
    result.Doomed limit := by
  induction tokens generalizing reader with
  | nil =>
    cases ok
    exact doomed
  | cons next rest inductionHypothesis =>
    rw [List.foldlM_cons] at ok
    obtain ⟨stepped, step, run⟩ := exists_of_bind_eq_ok ok
    exact inductionHypothesis (doomed_of_step doomed step) run

/-- A doomed reader does not end well. -/
theorem finish_ne_ok_of_doomed {reader : Reader} {stop : Nat} {formula : Formula String}
    (doomed : reader.Doomed limit) : reader.finish limit stop ≠ .ok formula := by
  intro ok
  obtain ⟨enclosing, level, mode⟩ := reader
  cases mode with
  | wanting blame => cases blame <;> cases ok
  | holding operand =>
    obtain ⟨whole, joins, rest⟩ := exists_of_bind_eq_ok ok
    cases doomed with
    | enclosing member full =>
      cases enclosing with
      | nil => cases member
      | cons innermost enclosing => cases rest
    | wanting wants => cases wants
    | holding holds waits deep =>
      cases holds
      exact disjoin_ne_ok waits deep joins

/-- A reader that reports a level too many at the end of the tokens was doomed. -/
theorem doomed_of_finish {reader : Reader} {stop position : Nat}
    (failed : reader.finish limit stop = .error ⟨position, .tooDeep⟩) : reader.Doomed limit := by
  obtain ⟨enclosing, level, mode⟩ := reader
  cases mode with
  | wanting blame => cases blame <;> cases failed
  | holding operand =>
    rcases error_of_bind_eq_error failed with joining | ⟨whole, _, rest⟩
    · obtain ⟨waiting, waits, _, deep⟩ := error_of_disjoin joining
      exact .holding rfl waits deep
    · cases enclosing <;> cases rest

/-- After a level too many, no further tokens make an expression. Either the report came before the
last token, and comes again, or the reader was doomed when it came to the end. -/
theorem parseWithin_append_ne_ok {tokens : List Spanned} {position : Nat}
    (failed : parseWithin limit tokens = .error ⟨position, .tooDeep⟩) (more : List Spanned)
    (formula : Formula String) : parseWithin limit (tokens ++ more) ≠ .ok formula := by
  intro ok
  unfold parseWithin at failed ok
  split at ok
  next => cases ok
  next last _ =>
    obtain ⟨result, run, finish⟩ := exists_of_bind_eq_ok ok
    rw [List.foldlM_append] at run
    obtain ⟨reader, led, onward⟩ := exists_of_bind_eq_ok run
    split at failed
    next => cases failed
    next =>
      rw [led] at failed
      exact finish_ne_ok_of_doomed (doomed_of_foldlM (doomed_of_finish failed) onward) finish

end Doomed

/-! ## What the grammar derives -/

/-- A scan reports an empty pattern at such a pattern only. -/
theorem Scan.exists_empty_of_run {scan : Scan} {tokens : List Spanned} {position : Nat}
    (failed : scan.run tokens = .error ⟨position, .emptyPattern⟩) :
    ∃ spanned ∈ tokens, spanned.token = .pattern "" := by
  induction tokens generalizing scan with
  | nil =>
    unfold run finish missing at failed
    grind
  | cons next rest inductionHypothesis =>
    rcases error_of_bind_eq_error failed with atNext | ⟨stepped, _, inRest⟩
    · refine ⟨next, List.mem_cons_self, ?_⟩
      unfold step operand operator missing at atNext
      grind
    · obtain ⟨spanned, member, empty⟩ := inductionHypothesis inRest
      exact ⟨spanned, List.mem_cons_of_mem next member, empty⟩

namespace Derivation

variable {limit : Nat}

/-- A pattern that is not empty is not refused for being so. -/
theorem exists_empty_of_parseWithin {tokens : List Spanned} {position : Nat}
    (failed : parseWithin limit tokens = .error ⟨position, .emptyPattern⟩) :
    ∃ spanned ∈ tokens, spanned.token = .pattern "" := by
  have same := (parseWithin_sameVerdict limit tokens).map_eq (by simp [failed])
  rw [failed] at same
  cases scanned : Scan.start.run tokens with
  | error error =>
    rw [scanned] at same
    cases same
    exact Scan.exists_empty_of_run scanned
  | ok value =>
    rw [scanned] at same
    cases same

/-- The tokens of a derivation are parsed exactly if the derivation fits the limit. Any other
derivation of them fits it too. -/
theorem parseWithin_tokens_eq_ok_iff (positive : 0 < limit) (derivation : Derivation .expression) :
    parseWithin limit derivation.tokens = .ok derivation.formula ↔ derivation.Fits limit 0 := by
  constructor
  · intro ok
    obtain ⟨other, sameTokens, sameFormula, fits⟩ := exists_of_parseWithin_eq_ok positive ok
    rw [fits_zero_iff] at fits ⊢
    rw [sameTokens, sameFormula, openings_eq_of_tokens_eq sameTokens] at fits
    exact fits
  · exact (parseWithin_agrees limit derivation).eq_expected

/-- A derivation without empty patterns is parsed, or refused for a level too many. -/
theorem parseWithin_tokens_of_nonempty (derivation : Derivation .expression)
    (nonempty : ∀ spanned ∈ derivation.tokens, spanned.token ≠ .pattern "") :
    parseWithin limit derivation.tokens = .ok derivation.formula ∨
      ∃ position, parseWithin limit derivation.tokens = .error ⟨position, .tooDeep⟩ := by
  rcases parseWithin_agrees limit derivation with parsed | ⟨⟨position, reason, refused, cause⟩, _⟩
  · exact Or.inl parsed
  · rcases cause with rfl | rfl
    · obtain ⟨spanned, member, empty⟩ := exists_empty_of_parseWithin refused
      exact absurd empty (nonempty spanned member)
    · exact Or.inr ⟨position, refused⟩

end Derivation

/-- A level too many is reported at the offset of a token that opens a level or joins operands, and
no token sequence that begins with the refused one is accepted. Where a token sequence of the
grammar has no empty pattern, it is accepted or refused for a level too many. It is refused exactly
if its formula is too deep, or too many parentheses and prefix NOTs are open around one of its
tokens. -/
theorem parse_tooDeep_exactly (tokens : List Spanned) :
    (∀ position, parse tokens = .error ⟨position, .tooDeep⟩ →
      (∃ spanned ∈ tokens, spanned.offset = position ∧
        (spanned.token = .opening ∨ ∃ symbol, spanned.token = .operator symbol)) ∧
      ∀ more formula, parse (tokens ++ more) ≠ .ok formula) ∧
    ∀ derivation : Derivation .expression, derivation.tokens = tokens →
      (∀ spanned ∈ tokens, spanned.token ≠ .pattern "") →
      (parse tokens = .ok derivation.formula ∨
        ∃ position, parse tokens = .error ⟨position, .tooDeep⟩) ∧
      ((∃ position, parse tokens = .error ⟨position, .tooDeep⟩) ↔
        maxDepth < derivation.formula.depth ∨ ∃ count ∈ derivation.openings, maxDepth < count) := by
  constructor
  · intro position failed
    exact ⟨Derivation.deepensAt_of_parseWithin (by decide) failed,
      parseWithin_append_ne_ok failed⟩
  · rintro derivation rfl nonempty
    have positive : 0 < maxDepth := by decide
    have verdict : parse derivation.tokens = .ok derivation.formula ∨
        ∃ position, parse derivation.tokens = .error ⟨position, .tooDeep⟩ :=
      derivation.parseWithin_tokens_of_nonempty nonempty
    refine ⟨verdict, ?_⟩
    have accepted : parse derivation.tokens = .ok derivation.formula ↔ _ :=
      derivation.parseWithin_tokens_eq_ok_iff positive
    rw [derivation.fits_zero_iff] at accepted
    constructor
    · rintro ⟨position, refused⟩
      by_cases deep : maxDepth < derivation.formula.depth
      · exact Or.inl deep
      · refine Or.inr (Classical.byContradiction fun shallow => ?_)
        have fits := accepted.mpr ⟨nonempty, Nat.le_of_not_lt deep, fun count member =>
          Nat.le_of_not_lt fun nested => shallow ⟨count, member, nested⟩⟩
        exact absurd (refused.symm.trans fits) (by simp)
    · intro exceeds
      rcases verdict with parsed | refused
      · obtain ⟨_, depth, openings⟩ := accepted.mp parsed
        rcases exceeds with deep | ⟨count, member, nested⟩
        · exact absurd deep (Nat.not_lt.mpr depth)
        · exact absurd nested (Nat.not_lt.mpr (openings count member))
      · exact refused

end LinkSieve.Expression
