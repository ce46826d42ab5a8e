import LinkSieve.Expression.Parser
/-!
# Positions of tokens

The parser writes down where tokens stand and never looks at it. So tokens that stand elsewhere are
read in the same way: moving the positions of the tokens moves the position that an error is blamed
on, and has no other effect. Each step of the parser commutes with the move, and so does the run.
What a token sequence is parsed into, and the reason for which it is refused, follows from its
tokens without their positions.
-/

namespace LinkSieve.Expression

variable (move : Nat → Nat)

/-- The token at the place that its positions are moved to. -/
def Spanned.moved (spanned : Spanned) : Spanned :=
  ⟨spanned.token, move spanned.offset, move spanned.stop⟩

/-- The error blamed on the place that its position is moved to. -/
def ParseError.moved (error : ParseError) : ParseError :=
  ⟨move error.position, error.reason⟩

/-- A result, converted, or an error with its position moved. -/
def relocate {α β : Type} (convert : α → β) : Except ParseError α → Except ParseError β
  | .ok value => .ok (convert value)
  | .error error => .error (error.moved move)

/-- The AND or NOT at its new place. -/
def Conjunction.moved (waiting : Conjunction) : Conjunction :=
  { waiting with position := move waiting.position }

/-- The OR at its new place. -/
def Disjunction.moved (waiting : Disjunction) : Disjunction :=
  { waiting with position := move waiting.position }

/-- The level with all that waits on it at new places. -/
def Level.moved (level : Level) : Level where
  disjunction := level.disjunction.map (·.moved move)
  conjunction := level.conjunction.map (·.moved move)
  negations := level.negations.map move

/-- The mode with the operator to blame at its new place. -/
def Mode.moved : Mode → Mode
  | .wanting blame => .wanting (blame.map (Prod.map id move))
  | .holding operand => .holding operand

/-- The reader between the tokens at their new places. -/
def Reader.moved (reader : Reader) : Reader where
  enclosing := reader.enclosing.map (Prod.map move (Level.moved move))
  level := reader.level.moved move
  mode := reader.mode.moved move

variable {α β γ δ : Type}

/-- Computations one after the other commute with a move if each of them does. -/
theorem relocate_bind {convert : α → β} {result : γ → δ} {next : α → Except ParseError γ}
    {continued : β → Except ParseError δ} (outcome : Except ParseError α)
    (commutes : ∀ value, continued (convert value) = relocate move result (next value)) :
    relocate move convert outcome >>= continued = relocate move result (outcome >>= next) := by
  cases outcome with
  | ok value => exact commutes value
  | error error => rfl

variable (limit : Nat)

/-- Depths are checked without regard to positions. -/
theorem within_moved (operand : Operand) (position : Nat) :
    operand.within limit (move position) = relocate move id (operand.within limit position) := by
  unfold Operand.within
  split <;> rfl

/-- NOTs take their operand without regard to positions. The induction is on the NOTs that wait. -/
theorem negate_moved (negations : List Nat) (operand : Operand) :
    Level.negate limit (negations.map move) operand =
      relocate move id (Level.negate limit negations operand) := by
  induction negations generalizing operand with
  | nil => rfl
  | cons position outer inductionHypothesis =>
    rw [List.map_cons, Level.negate, Level.negate, within_moved move]
    exact relocate_bind move _ inductionHypothesis

/-- An AND or a NOT between operands takes its right operand without regard to positions. -/
theorem conjoin_moved (waiting : Option Conjunction) (operand : Operand) :
    Level.conjoin limit (waiting.map (·.moved move)) operand =
      relocate move id (Level.conjoin limit waiting operand) := by
  cases waiting with
  | none => rfl
  | some waiting =>
    obtain ⟨left, negated, position⟩ := waiting
    have joined (right : Operand) := within_moved move limit (left.and right) position
    cases negated with
    | false => exact joined operand
    | true =>
      have negation := within_moved move limit operand.not position
      exact (congrArg (· >>= _) negation).trans (relocate_bind move _ joined)

/-- An OR takes its right operand without regard to positions. -/
theorem disjoin_moved (waiting : Option Disjunction) (operand : Operand) :
    Level.disjoin limit (waiting.map (·.moved move)) operand =
      relocate move id (Level.disjoin limit waiting operand) := by
  cases waiting with
  | none => rfl
  | some waiting => exact within_moved move limit _ _

/-- A reader takes an operand without regard to positions. -/
theorem take_moved (enclosing : List (Nat × Level)) (level : Level) (operand : Operand) :
    Reader.take limit (enclosing.map (Prod.map move (Level.moved move))) (level.moved move)
        operand =
      relocate move (Reader.moved move) (Reader.take limit enclosing level operand) := by
  unfold Reader.take
  rw [Level.moved, negate_moved move]
  refine relocate_bind move _ fun negated => ?_
  rw [conjoin_moved move]
  exact relocate_bind move _ fun conjoined => rfl

/-- Moving positions opens and closes nothing. -/
theorem openAround_moved (enclosing : List (Nat × Level)) :
    Reader.openAround (enclosing.map (Prod.map move (Level.moved move))) =
      Reader.openAround enclosing := by
  induction enclosing with
  | nil => rfl
  | cons opened enclosing inductionHypothesis =>
    obtain ⟨position, level⟩ := opened
    simp [Reader.openAround, Level.moved, inductionHypothesis]

/-- So as many levels are open before and after a move. -/
theorem nesting_moved (reader : Reader) : (reader.moved move).nesting = reader.nesting := by
  simp [Reader.nesting, Reader.moved, Level.moved, openAround_moved move]

/-- A parenthesis or a prefix NOT is opened without regard to positions. -/
theorem enter_moved (reader : Reader) (position : Nat) (entered : Reader) :
    (reader.moved move).enter limit (move position) (entered.moved move) =
      relocate move (Reader.moved move) (reader.enter limit position entered) := by
  unfold Reader.enter
  rw [nesting_moved move]
  split <;> rfl

/-- Where an operand is wanted, a token is read without regard to positions. -/
theorem readOperand_moved (reader : Reader) (blame : Option (Operator × Nat)) (next : Spanned) :
    (reader.moved move).readOperand limit (blame.map (Prod.map id move)) (next.moved move) =
      relocate move (Reader.moved move) (reader.readOperand limit blame next) := by
  obtain ⟨token, offset, stop⟩ := next
  cases token with
  | pattern text =>
    by_cases empty : text.toList.isEmpty = true
    · simp only [Reader.readOperand, Spanned.moved, empty, if_true]
      rfl
    · simp only [Reader.readOperand, Spanned.moved, empty]
      exact take_moved move limit _ _ _
  | opening =>
    exact enter_moved move limit reader offset
      ⟨(offset, reader.level) :: reader.enclosing, .empty, .wanting none⟩
  | closing =>
    cases blame with
    | none => rfl
    | some blamed => rfl
  | operator symbol =>
    cases symbol with
    | and => rfl
    | or => rfl
    | not =>
      exact enter_moved move limit reader offset
        { reader with
          level := { reader.level with negations := offset :: reader.level.negations }
          mode := .wanting (some (.not, offset)) }

/-- Where an operator is wanted, a token is read without regard to positions. -/
theorem readOperator_moved (reader : Reader) (operand : Operand) (next : Spanned) :
    (reader.moved move).readOperator limit operand (next.moved move) =
      relocate move (Reader.moved move) (reader.readOperator limit operand next) := by
  obtain ⟨token, offset, stop⟩ := next
  have joins := disjoin_moved move limit reader.level.disjunction operand
  have innermost : (reader.enclosing.map (Prod.map move (Level.moved move))).isEmpty =
      reader.enclosing.isEmpty := List.isEmpty_map
  cases token with
  | pattern text =>
    simp only [Reader.readOperator, Spanned.moved, Reader.moved, Level.moved, joins, innermost]
    exact relocate_bind move _ fun _ => rfl
  | opening =>
    simp only [Reader.readOperator, Spanned.moved, Reader.moved, Level.moved, joins, innermost]
    exact relocate_bind move _ fun _ => rfl
  | closing =>
    simp only [Reader.readOperator, Spanned.moved, Reader.moved, Level.moved, joins]
    refine relocate_bind move _ fun inner => ?_
    cases reader.enclosing with
    | nil => rfl
    | cons opened enclosing => exact take_moved move limit enclosing opened.2 inner
  | operator symbol =>
    cases symbol with
    | and => rfl
    | not => rfl
    | or =>
      simp only [Reader.readOperator, Spanned.moved, Reader.moved, Level.moved, joins]
      exact relocate_bind move _ fun _ => rfl

/-- A step of the parser commutes with a move. -/
theorem step_moved (reader : Reader) (next : Spanned) :
    (reader.moved move).step limit (next.moved move) =
      relocate move (Reader.moved move) (reader.step limit next) := by
  obtain ⟨enclosing, level, mode⟩ := reader
  cases mode with
  | wanting blame =>
    exact readOperand_moved move limit ⟨enclosing, level, .wanting blame⟩ blame next
  | holding operand =>
    exact readOperator_moved move limit ⟨enclosing, level, .holding operand⟩ operand next

/-- So does a run. The induction is on the tokens. -/
theorem foldlM_step_moved (tokens : List Spanned) (reader : Reader) :
    (tokens.map (Spanned.moved move)).foldlM (Reader.step limit) (reader.moved move) =
      relocate move (Reader.moved move) (tokens.foldlM (Reader.step limit) reader) := by
  induction tokens generalizing reader with
  | nil => rfl
  | cons next rest inductionHypothesis =>
    rw [List.map_cons, List.foldlM_cons, List.foldlM_cons, step_moved]
    exact relocate_bind move _ inductionHypothesis

/-- The end is reached without regard to positions. -/
theorem finish_moved (reader : Reader) (stop : Nat) :
    (reader.moved move).finish limit (move stop) = relocate move id (reader.finish limit stop) := by
  obtain ⟨enclosing, level, mode⟩ := reader
  cases mode with
  | wanting blame =>
    cases blame with
    | none => rfl
    | some blamed => rfl
  | holding operand =>
    have joins := disjoin_moved move limit level.disjunction operand
    simp only [Reader.finish, Reader.moved, Mode.moved, Level.moved, joins]
    refine relocate_bind move _ fun whole => ?_
    cases enclosing with
    | nil => rfl
    | cons opened enclosing => rfl

/-- Moving tokens moves errors, and has no other effect. The byte at which a text without tokens is
reported is no position of a token, so it has to stay where it is. -/
theorem parseWithin_moved (fixed : move 0 = 0) (tokens : List Spanned) :
    parseWithin limit (tokens.map (Spanned.moved move)) =
      relocate move id (parseWithin limit tokens) := by
  unfold parseWithin
  rw [List.getLast?_map]
  cases tokens.getLast? with
  | none =>
    have stays : ParseError.moved move ⟨0, .emptyExpression⟩ = ⟨0, .emptyExpression⟩ := by
      rw [ParseError.moved, fixed]
    exact congrArg Except.error stays.symm
  | some last =>
    have run := foldlM_step_moved move limit tokens .start
    exact (congrArg (· >>= _) run).trans
      (relocate_bind move _ fun reader => finish_moved move limit reader last.stop)

/-- What tokens are parsed into, and the reason for which they are refused, does not depend on where
they stand. All positions are moved to the beginning, where those of both sequences meet. -/
theorem parse_mapError_reason {first second : List Spanned}
    (same : first.map (·.token) = second.map (·.token)) :
    (parse first).mapError (·.reason) = (parse second).mapError (·.reason) := by
  have gathered (tokens : List Spanned) :
      tokens.map (Spanned.moved fun _ => 0) = (tokens.map (·.token)).map (Spanned.mk · 0 0) := by
    rw [List.map_map]
    rfl
  have forgotten (tokens : List Spanned) : (parse tokens).mapError (·.reason) =
      (parse (tokens.map (Spanned.moved fun _ => 0))).mapError (·.reason) := by
    rw [parse, parse, parseWithin_moved (fun _ => 0) maxDepth rfl]
    cases parseWithin maxDepth tokens <;> rfl
  rw [forgotten first, forgotten second, gathered, gathered, same]

end LinkSieve.Expression
