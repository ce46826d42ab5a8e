import LinkSieve.Proofs.Expression.Grammar
/-!
# Reading by recursive descent

The rules of the grammar can be read by routines that call each other, one for each category. Such a
reading needs room for the calls that are active at once, and this is what a stack that runs over
lacks. Here every call takes one unit of fuel from the calls inside it, so the fuel of the outermost
call bounds the number of calls that are active at once. Parentheses and prefix NOTs are counted
when they are entered and left.

The parser and the descent come to the same for all tokens. The descent never calls deeper than four
times for each level that may be open, and four times besides; its loops end, its counter does not
drop below zero, and a primary is not looked for where a NOT stands.
-/

namespace LinkSieve.Expression

open Reader (openAround)

namespace Descent

/-- Why a call ends without an operand. Only the first of these concerns the tokens. The others are
what must not happen: a call too many, a loop that does not end, a counter below zero, and a NOT
where the call for a primary is made. -/
inductive Fault where
  | reported (error : ParseError)
  | outOfFuel
  | endless
  | underflow
  | strayNot

/-- A check of the parser as a step of the descent. -/
def report {α : Type} (checked : Except ParseError α) : Except Fault α :=
  checked.mapError .reported

/-- Where the descent stands: the token just behind, the tokens ahead, and the number of parentheses
and prefix NOTs that are counted as open. -/
structure Cursor where
  behind : Option Spanned
  ahead : List Spanned
  nesting : Nat

namespace Cursor

/-- Goes past the next token if it is a certain one, and tells its offset. -/
def accept (cursor : Cursor) (token : Token) : Option (Nat × Cursor) :=
  match cursor.ahead with
  | [] => none
  | next :: rest =>
    if next.token = token then some (next.offset, ⟨some next, rest, cursor.nesting⟩) else none

/-- Counts a parenthesis or prefix NOT at byte `position` as open, unless too many are. -/
def enter (limit : Nat) (cursor : Cursor) (position : Nat) : Except Fault Cursor :=
  if limit ≤ cursor.nesting then .error (.reported ⟨position, .tooDeep⟩)
  else .ok { cursor with nesting := cursor.nesting + 1 }

/-- Counts a parenthesis or prefix NOT as closed. -/
def leave (cursor : Cursor) : Except Fault Cursor :=
  match cursor.nesting with
  | 0 => .error .underflow
  | nesting + 1 => .ok { cursor with nesting }

/-- The operator just behind, with its position. -/
def operatorBehind (cursor : Cursor) : Option (Operator × Nat) :=
  match cursor.behind with
  | some ⟨.operator symbol, offset, _⟩ => some (symbol, offset)
  | _ => none

/-- What is reported where an operand is missing: the operator just behind lacks it. Without such an
operator something else is reported. -/
def missing (cursor : Cursor) (otherwise : ParseError) : ParseError :=
  match cursor.operatorBehind with
  | some (symbol, position) => ⟨position, .missingOperand symbol⟩
  | none => otherwise

end Cursor

variable (limit : Nat)

/-- Reads operands as long as an OR stands before them, and joins each to those before it. A loop
that has no round left does not end. -/
def joinDisjuncts (operand : Cursor → Except Fault (Operand × Cursor)) :
    Nat → Operand → Cursor → Except Fault (Operand × Cursor)
  | 0, _, _ => .error .endless
  | rounds + 1, left, cursor =>
    match cursor.accept (.operator .or) with
    | none => .ok (left, cursor)
    | some (position, cursor) => do
      let (right, cursor) ← operand cursor
      let joined ← report ((left.or right).within limit position)
      joinDisjuncts operand rounds joined cursor

/-- Reads operands as long as an AND or a NOT stands before them, and joins each to those before
it. -/
def joinConjuncts (operand : Cursor → Except Fault (Operand × Cursor)) :
    Nat → Operand → Cursor → Except Fault (Operand × Cursor)
  | 0, _, _ => .error .endless
  | rounds + 1, left, cursor =>
    match cursor.accept (.operator .and) with
    | some (position, cursor) => do
      let (right, cursor) ← operand cursor
      let joined ← report ((left.and right).within limit position)
      joinConjuncts operand rounds joined cursor
    | none =>
      match cursor.accept (.operator .not) with
      | some (position, cursor) => do
        let (right, cursor) ← operand cursor
        let negated ← report (right.not.within limit position)
        let joined ← report ((left.and negated).within limit position)
        joinConjuncts operand rounds joined cursor
      | none => .ok (left, cursor)

/-- Reads a phrase of a category. The last token stops at byte `stop`, and a call has `fuel` for
itself and the calls inside it. A loop has a round for each token ahead, and one to end. -/
def read (stop : Nat) : Nat → Category → Cursor → Except Fault (Operand × Cursor)
  | 0, _, _ => .error .outOfFuel
  | fuel + 1, .expression, cursor => do
    let (first, cursor) ← read stop fuel .conjunction cursor
    joinDisjuncts limit (read stop fuel .conjunction) (cursor.ahead.length + 1) first cursor
  | fuel + 1, .conjunction, cursor => do
    let (first, cursor) ← read stop fuel .negation cursor
    joinConjuncts limit (read stop fuel .negation) (cursor.ahead.length + 1) first cursor
  | fuel + 1, .negation, cursor =>
    match cursor.accept (.operator .not) with
    | none => read stop fuel .primary cursor
    | some (position, cursor) => do
      let cursor ← cursor.enter limit position
      let (operand, cursor) ← read stop fuel .negation cursor
      let cursor ← cursor.leave
      let negated ← report (operand.not.within limit position)
      return (negated, cursor)
  | fuel + 1, .primary, cursor =>
    match cursor.ahead with
    | [] => .error (.reported (cursor.missing ⟨stop, .unexpectedEnd .operand⟩))
    | next :: rest =>
      match next.token with
      | .pattern text =>
        if text.toList.isEmpty then .error (.reported ⟨next.offset, .emptyPattern⟩)
        else .ok (.pattern text, ⟨some next, rest, cursor.nesting⟩)
      | .opening => do
        let inside ← cursor.enter limit next.offset
        let (inner, cursor) ← read stop fuel .expression ⟨some next, rest, inside.nesting⟩
        let cursor ← cursor.leave
        match cursor.ahead with
        | [] => .error (.reported ⟨next.offset, .unclosedParenthesis⟩)
        | closing :: rest =>
          if closing.token = .closing then .ok (inner, ⟨some closing, rest, cursor.nesting⟩)
          else
            .error (.reported ⟨closing.offset, .unexpectedToken closing.token .operatorOrClosing⟩)
      | .closing =>
        .error (.reported (cursor.missing ⟨next.offset, .unexpectedToken next.token .operand⟩))
      | .operator .not => .error .strayNot
      | .operator symbol => .error (.reported ⟨next.offset, .missingOperand symbol⟩)

/-- Ends the reading of an expression, behind which there must be no token. -/
def conclude (operand : Operand) (cursor : Cursor) : Except Fault (Formula String) :=
  match cursor.ahead with
  | [] => .ok operand.formula
  | next :: _ =>
    if next.token = .closing then .error (.reported ⟨next.offset, .unmatchedParenthesis⟩)
    else .error (.reported ⟨next.offset, .unexpectedToken next.token .operatorOrEnd⟩)

/-- Reads an expression that takes up all tokens. -/
def parse (fuel : Nat) (tokens : List Spanned) : Except Fault (Formula String) :=
  match tokens.getLast? with
  | none => .error (.reported ⟨0, .emptyExpression⟩)
  | some last => do
    let (operand, cursor) ← read limit last.stop fuel .expression ⟨none, tokens, 0⟩
    conclude operand cursor

/-! ## The parser beside the descent -/

/-- What the parser makes of tokens from a reader on. -/
def complete (stop : Nat) (reader : Reader) (tokens : List Spanned) :
    Except ParseError (Formula String) :=
  tokens.foldlM (Reader.step limit) reader >>= (Reader.finish limit · stop)

/-- The parser takes one step and goes on. -/
theorem complete_cons (stop : Nat) (reader : Reader) (next : Spanned) (rest : List Spanned) :
    complete limit stop reader (next :: rest) =
      reader.step limit next >>= (complete limit stop · rest) := by
  simp only [complete, List.foldlM_cons, bind_assoc]

/-- The outcome of a call in step with the parser. Where the call reports an error, the parser fails
with that error. Where it comes to an operand, the parser goes on with the operand from the tokens
that are left; as much is open there as before, and the tokens left are no more than `bound`. -/
inductive Follows (nesting bound : Nat) (ended : List Spanned → Prop)
    (parsed : Except ParseError (Formula String))
    (onward : Operand → List Spanned → Except ParseError (Formula String)) :
    Except Fault (Operand × Cursor) → Prop where
  | reports {error : ParseError} (fails : parsed = .error error) :
      Follows nesting bound ended parsed onward (.error (.reported error))
  | reads {operand : Operand} {cursor : Cursor} (restored : cursor.nesting = nesting)
      (shorter : cursor.ahead.length ≤ bound) (ends : ended cursor.ahead)
      (goesOn : parsed = onward operand cursor.ahead) :
      Follows nesting bound ended parsed onward (.ok (operand, cursor))

namespace Follows

variable {limit : Nat} {nesting bound innerNesting innerBound : Nat}
  {ended innerEnded : List Spanned → Prop} {parsed : Except ParseError (Formula String)}
  {onward innerOnward : Operand → List Spanned → Except ParseError (Formula String)}

/-- A call goes on from the operand of a call inside it. -/
theorem bind {outcome : Except Fault (Operand × Cursor)}
    {next : Operand × Cursor → Except Fault (Operand × Cursor)}
    (first : Follows innerNesting innerBound innerEnded parsed innerOnward outcome)
    (second : ∀ operand cursor, cursor.nesting = innerNesting →
      cursor.ahead.length ≤ innerBound → innerEnded cursor.ahead →
      Follows nesting bound ended (innerOnward operand cursor.ahead) onward
        (next (operand, cursor))) :
    Follows nesting bound ended parsed onward (outcome >>= next) := by
  cases first with
  | reports fails => exact .reports fails
  | reads restored shorter ends goesOn => exact goesOn ▸ second _ _ restored shorter ends

/-- A call checks what the parser checks. -/
theorem check {α : Type} {checked : Except ParseError α}
    {next : α → Except Fault (Operand × Cursor)}
    {continued : α → Except ParseError (Formula String)}
    (second : ∀ value, Follows nesting bound ended (continued value) onward (next value)) :
    Follows nesting bound ended (checked >>= continued) onward (report checked >>= next) := by
  cases checked with
  | error error => exact .reports rfl
  | ok value => exact second value

/-- A call enters a parenthesis or prefix NOT where the parser does. -/
theorem enter {stop position : Nat} {reader entered : Reader} {ahead : List Spanned}
    {cursor : Cursor} {next : Cursor → Except Fault (Operand × Cursor)}
    (counted : cursor.nesting = reader.nesting)
    (inside : cursor.nesting < limit → Follows nesting bound ended
      (complete limit stop entered ahead) onward
      (next { cursor with nesting := cursor.nesting + 1 })) :
    Follows nesting bound ended
      (reader.enter limit position entered >>= (complete limit stop · ahead)) onward
      (cursor.enter limit position >>= next) := by
  unfold Reader.enter Cursor.enter
  rw [← counted]
  by_cases room : cursor.nesting < limit
  · rw [if_pos room, if_neg (Nat.not_le.mpr room)]
    exact inside room
  · rw [if_neg room, if_pos (Nat.not_lt.mp room)]
    exact .reports rfl

/-- What was entered can be left. -/
theorem leave {count : Nat} {cursor : Cursor}
    {next : Cursor → Except Fault (Operand × Cursor)} (entered : cursor.nesting = count + 1)
    (outside : Follows nesting bound ended parsed onward (next { cursor with nesting := count })) :
    Follows nesting bound ended parsed onward (cursor.leave >>= next) := by
  rw [Cursor.leave, entered]
  exact outside

/-- The bound on the tokens that are left may be raised. -/
theorem weaken {outcome : Except Fault (Operand × Cursor)}
    (follows : Follows nesting innerBound ended parsed onward outcome) (le : innerBound ≤ bound) :
    Follows nesting bound ended parsed onward outcome := by
  cases follows with
  | reports fails => exact .reports fails
  | reads restored shorter ends goesOn =>
    exact .reads restored (Nat.le_trans shorter le) ends goesOn

end Follows

/-- The number of calls that are active when a primary is looked for, where a phrase of the category
begins. -/
def calls : Category → Nat
  | .expression => 4
  | .conjunction => 3
  | .negation => 2
  | .primary => 1

/-- What waits on the level where a phrase of the category is wanted. A primary is not wanted where
a NOT stands. -/
def Wanted (level : Level) (ahead : List Spanned) : Category → Prop
  | .expression => level = .empty
  | .conjunction => ∃ waiting, level = ⟨waiting, none, []⟩
  | .negation => True
  | .primary => ∀ next ∈ ahead.head?, next.token ≠ .operator .not

/-- What cannot follow a phrase of the category, because the phrase would go on with it. -/
def Ended (ahead : List Spanned) : Category → Prop
  | .expression => ∀ next ∈ ahead.head?, ∀ symbol, next.token ≠ .operator symbol
  | .conjunction => ∀ next ∈ ahead.head?,
      next.token ≠ .operator .and ∧ next.token ≠ .operator .not
  | .negation | .primary => True

/-- With some fuel the call for a category is in step with the parser, where it has four calls for
each level that may still be entered. -/
def InStep (stop fuel : Nat) (category : Category) : Prop :=
  ∀ (enclosing : List (Nat × Level)) (level : Level) (cursor : Cursor),
    Wanted level cursor.ahead category →
    cursor.nesting = level.negations.length + openAround enclosing → cursor.nesting ≤ limit →
    calls category + 4 * (limit - cursor.nesting) ≤ fuel →
    Follows cursor.nesting cursor.ahead.length (Ended · category)
      (complete limit stop ⟨enclosing, level, .wanting cursor.operatorBehind⟩ cursor.ahead)
      (fun operand ahead =>
        Reader.take limit enclosing level operand >>= (complete limit stop · ahead))
      (read limit stop fuel category cursor)

variable {limit} {stop fuel : Nat}

/-- An operand that ends where it is taken is taken by the OR that waits for it. -/
theorem take_or (enclosing : List (Nat × Level)) (waiting : Disjunction) (operand : Operand)
    {ahead : List Spanned} (ended : Ended ahead .conjunction) :
    (Reader.take limit enclosing ⟨some waiting, none, []⟩ operand >>=
        (complete limit stop · ahead)) =
      (waiting.left.or operand).within limit waiting.position >>= fun joined =>
        complete limit stop ⟨enclosing, .empty, .holding joined⟩ ahead := by
  change complete limit stop ⟨enclosing, ⟨some waiting, none, []⟩, .holding operand⟩ ahead = _
  cases ahead with
  | nil =>
    simp only [complete, List.foldlM_nil, pure_bind]
    rfl
  | cons next rest =>
    obtain ⟨token, offset, nextStop⟩ := next
    obtain ⟨noAnd, noNot⟩ := ended _ rfl
    have joins : Reader.step limit ⟨enclosing, ⟨some waiting, none, []⟩, .holding operand⟩
        ⟨token, offset, nextStop⟩ =
      (waiting.left.or operand).within limit waiting.position >>= fun joined =>
        Reader.step limit ⟨enclosing, .empty, .holding joined⟩ ⟨token, offset, nextStop⟩ := by
      cases token with
      | pattern text => rfl
      | opening => rfl
      | closing => rfl
      | operator symbol =>
        cases symbol with
        | and => exact absurd rfl noAnd
        | not => exact absurd rfl noNot
        | or => rfl
    simp only [complete_cons, joins, bind_assoc]

/-- An operand is taken by the AND that waits for it. -/
theorem take_and (enclosing : List (Nat × Level)) (waiting : Option Disjunction)
    (left operand : Operand) (position : Nat) (ahead : List Spanned) :
    (Reader.take limit enclosing ⟨waiting, some ⟨left, false, position⟩, []⟩ operand >>=
        (complete limit stop · ahead)) =
      (left.and operand).within limit position >>= fun joined =>
        complete limit stop ⟨enclosing, ⟨waiting, none, []⟩, .holding joined⟩ ahead := by
  simp only [Reader.take, Level.negate, Level.conjoin, bind_assoc]
  rfl

/-- An operand is negated and taken by the NOT between operands that waits for it. -/
theorem take_andNot (enclosing : List (Nat × Level)) (waiting : Option Disjunction)
    (left operand : Operand) (position : Nat) (ahead : List Spanned) :
    (Reader.take limit enclosing ⟨waiting, some ⟨left, true, position⟩, []⟩ operand >>=
        (complete limit stop · ahead)) =
      operand.not.within limit position >>= fun negated =>
        (left.and negated).within limit position >>= fun joined =>
          complete limit stop ⟨enclosing, ⟨waiting, none, []⟩, .holding joined⟩ ahead := by
  simp only [Reader.take, Level.negate, Level.conjoin, if_true, bind_assoc]
  rfl

/-- An operand is negated by the prefix NOT that waits for it, and taken on the level without it. -/
theorem take_not (enclosing : List (Nat × Level)) (level : Level) (operand : Operand)
    (position : Nat) (ahead : List Spanned) :
    (Reader.take limit enclosing { level with negations := position :: level.negations } operand >>=
        (complete limit stop · ahead)) =
      operand.not.within limit position >>= fun negated =>
        (Reader.take limit enclosing level negated >>= (complete limit stop · ahead)) := by
  simp only [Reader.take, Level.negate, bind_assoc]

/-- Joining disjuncts is in step with a reader that holds the first of them. The induction is on the
rounds, of which there are more than tokens ahead. -/
theorem joinDisjuncts_follows (conjunctions : InStep limit stop fuel .conjunction)
    (enclosing : List (Nat × Level)) (rounds : Nat) (left : Operand) (cursor : Cursor)
    (enough : cursor.ahead.length < rounds) (ended : Ended cursor.ahead .conjunction)
    (counted : cursor.nesting = openAround enclosing) (room : cursor.nesting ≤ limit)
    (fueled : calls .conjunction + 4 * (limit - cursor.nesting) ≤ fuel) :
    Follows cursor.nesting cursor.ahead.length (Ended · .expression)
      (complete limit stop ⟨enclosing, .empty, .holding left⟩ cursor.ahead)
      (fun operand ahead => complete limit stop ⟨enclosing, .empty, .holding operand⟩ ahead)
      (joinDisjuncts limit (read limit stop fuel .conjunction) rounds left cursor) := by
  induction rounds generalizing left cursor with
  | zero => cases enough
  | succ rounds inductionHypothesis =>
    obtain ⟨behind, ahead, nesting⟩ := cursor
    unfold joinDisjuncts Cursor.accept
    cases ahead with
    | nil => exact .reads rfl (Nat.le_refl _) (by simp [Ended]) rfl
    | cons next rest =>
      obtain ⟨token, offset, nextStop⟩ := next
      by_cases isOr : token = .operator .or
      · subst isOr
        let waiting : Disjunction := ⟨left, offset⟩
        have conjunct := conjunctions enclosing ⟨some waiting, none, []⟩
          ⟨some ⟨.operator .or, offset, nextStop⟩, rest, nesting⟩ ⟨_, rfl⟩
          (counted.trans (Nat.zero_add _).symm) room fueled
        simp only [if_true]
        refine Follows.bind conjunct fun right cursor restored shorter ends => ?_
        have remaining : cursor.ahead.length < rounds :=
          Nat.lt_of_le_of_lt shorter (Nat.lt_of_succ_lt_succ enough)
        rw [take_or enclosing waiting right ends]
        refine Follows.check fun joined => ?_
        have further := inductionHypothesis joined cursor remaining ends (restored.trans counted)
          (restored ▸ room) (restored ▸ fueled)
        rw [restored] at further
        exact further.weaken (Nat.le_succ_of_le shorter)
      · simp only [if_neg isOr]
        refine .reads rfl (Nat.le_refl _) ?_ rfl
        obtain ⟨noAnd, noNot⟩ := ended _ rfl
        rintro next ⟨⟩ symbol
        cases symbol with
        | and => exact noAnd
        | not => exact noNot
        | or => exact isOr

/-- Joining conjuncts is in step with a reader that holds the first of them. The induction is on the
rounds again. -/
theorem joinConjuncts_follows (negations : InStep limit stop fuel .negation)
    (enclosing : List (Nat × Level)) (waiting : Option Disjunction) (rounds : Nat) (left : Operand)
    (cursor : Cursor) (enough : cursor.ahead.length < rounds)
    (counted : cursor.nesting = openAround enclosing) (room : cursor.nesting ≤ limit)
    (fueled : calls .negation + 4 * (limit - cursor.nesting) ≤ fuel) :
    Follows cursor.nesting cursor.ahead.length (Ended · .conjunction)
      (complete limit stop ⟨enclosing, ⟨waiting, none, []⟩, .holding left⟩ cursor.ahead)
      (fun operand ahead =>
        complete limit stop ⟨enclosing, ⟨waiting, none, []⟩, .holding operand⟩ ahead)
      (joinConjuncts limit (read limit stop fuel .negation) rounds left cursor) := by
  induction rounds generalizing left cursor with
  | zero => cases enough
  | succ rounds inductionHypothesis =>
    obtain ⟨behind, ahead, nesting⟩ := cursor
    cases ahead with
    | nil => exact .reads rfl (Nat.le_refl _) (by simp [Ended]) rfl
    | cons next rest =>
      have further (joined : Operand) (cursor : Cursor) (restored : cursor.nesting = nesting)
          (shorter : cursor.ahead.length ≤ rest.length) :
          Follows nesting (rest.length + 1) (Ended · .conjunction)
            (complete limit stop ⟨enclosing, ⟨waiting, none, []⟩, .holding joined⟩ cursor.ahead)
            (fun operand ahead =>
              complete limit stop ⟨enclosing, ⟨waiting, none, []⟩, .holding operand⟩ ahead)
            (joinConjuncts limit (read limit stop fuel .negation) rounds joined cursor) := by
        subst restored
        exact (inductionHypothesis joined cursor
          (Nat.lt_of_le_of_lt shorter (Nat.lt_of_succ_lt_succ enough)) counted room fueled).weaken
          (Nat.le_succ_of_le shorter)
      have operand (negated : Bool) :=
        negations enclosing ⟨waiting, some ⟨left, negated, next.offset⟩, []⟩
          ⟨some next, rest, nesting⟩ trivial (counted.trans (Nat.zero_add _).symm) room fueled
      obtain ⟨token, offset, nextStop⟩ := next
      unfold joinConjuncts Cursor.accept
      by_cases isAnd : token = .operator .and
      · subst isAnd
        refine Follows.bind (operand false) fun right cursor restored shorter _ => ?_
        rw [take_and]
        exact Follows.check fun joined => further joined cursor restored shorter
      · by_cases isNot : token = .operator .not
        · subst isNot
          refine Follows.bind (operand true) fun right cursor restored shorter _ => ?_
          rw [take_andNot]
          refine Follows.check fun negated => ?_
          exact Follows.check fun joined => further joined cursor restored shorter
        · simp only [if_neg isAnd, if_neg isNot]
          refine .reads rfl (Nat.le_refl _) ?_ rfl
          rintro next ⟨⟩
          exact ⟨isAnd, isNot⟩

/-- An expression is read in step with the parser if conjunctions are, with one call less. -/
theorem expression_inStep (conjunctions : InStep limit stop fuel .conjunction) :
    InStep limit stop (fuel + 1) .expression := by
  rintro enclosing level cursor rfl counted room fueled
  have outermost : cursor.nesting = openAround enclosing := counted.trans (Nat.zero_add _)
  have remaining : calls .conjunction + 4 * (limit - cursor.nesting) ≤ fuel := by
    simp only [calls] at fueled ⊢
    omega
  have first := conjunctions enclosing .empty cursor ⟨none, rfl⟩ counted room remaining
  refine Follows.bind first fun operand after restored shorter ends => ?_
  have joined := joinDisjuncts_follows conjunctions enclosing (after.ahead.length + 1) operand after
    (Nat.lt_succ_self _) ends (restored.trans outermost) (restored ▸ room) (restored ▸ remaining)
  rw [restored] at joined
  exact joined.weaken shorter

/-- A conjunction is read in step with the parser if negations are, with one call less. -/
theorem conjunction_inStep (negations : InStep limit stop fuel .negation) :
    InStep limit stop (fuel + 1) .conjunction := by
  rintro enclosing _ cursor ⟨waiting, rfl⟩ counted room fueled
  have outermost : cursor.nesting = openAround enclosing := counted.trans (Nat.zero_add _)
  have remaining : calls .negation + 4 * (limit - cursor.nesting) ≤ fuel := by
    simp only [calls] at fueled ⊢
    omega
  have first := negations enclosing ⟨waiting, none, []⟩ cursor trivial counted room remaining
  refine Follows.bind first fun operand after restored shorter _ => ?_
  have joined := joinConjuncts_follows negations enclosing waiting (after.ahead.length + 1) operand
    after (Nat.lt_succ_self _) (restored.trans outermost) (restored ▸ room) (restored ▸ remaining)
  rw [restored] at joined
  exact joined.weaken shorter

/-- A negation is read in step with the parser if negations and primaries are, with one call less. A
prefix NOT that is entered leaves four calls less for the levels inside it, and needs one. -/
theorem negation_inStep (negations : InStep limit stop fuel .negation)
    (primaries : InStep limit stop fuel .primary) : InStep limit stop (fuel + 1) .negation := by
  rintro enclosing level ⟨behind, ahead, nesting⟩ - counted room fueled
  simp only [calls] at counted room fueled
  unfold read Cursor.accept
  have withoutNot (isPrimary : ∀ next ∈ ahead.head?, next.token ≠ .operator .not) :=
    primaries enclosing level ⟨behind, ahead, nesting⟩ isPrimary counted room
      (by simp only [calls]; omega)
  cases ahead with
  | nil => exact withoutNot (by simp)
  | cons next rest =>
    by_cases isNot : next.token = .operator .not
    · obtain ⟨token, offset, nextStop⟩ := next
      cases isNot
      rw [complete_cons]
      refine Follows.enter counted fun entered => ?_
      have entered : nesting < limit := entered
      have inner := negations enclosing { level with negations := offset :: level.negations }
        ⟨some ⟨.operator .not, offset, nextStop⟩, rest, nesting + 1⟩ trivial
        (by simp only [List.length_cons]; omega) entered (by simp only [calls]; omega)
      refine Follows.bind inner fun operand cursor restored shorter _ => ?_
      refine Follows.leave restored ?_
      rw [take_not]
      refine Follows.check fun negated => ?_
      exact .reads rfl (Nat.le_succ_of_le shorter) trivial rfl
    · simp only [if_neg isNot]
      exact withoutNot (by simpa using isNot)

/-- A primary is read in step with the parser if expressions are, with one call less. A parenthesis
that is entered leaves four calls less for the levels inside it, and these four are needed. -/
theorem primary_inStep (expressions : InStep limit stop fuel .expression) :
    InStep limit stop (fuel + 1) .primary := by
  rintro enclosing level ⟨behind, ahead, nesting⟩ wanted counted room fueled
  simp only [calls] at counted room fueled
  cases ahead with
  | nil =>
    refine .reports ?_
    simp only [complete, List.foldlM_nil, pure_bind, Reader.finish, Cursor.missing]
    cases Cursor.operatorBehind ⟨behind, [], nesting⟩ <;> rfl
  | cons next rest =>
    obtain ⟨token, offset, nextStop⟩ := next
    simp only [complete_cons]
    cases token with
    | pattern text =>
      unfold read
      simp only [Reader.step, Reader.readOperand]
      by_cases empty : text.toList.isEmpty = true
      · rw [if_pos empty, if_pos empty]
        exact .reports rfl
      · rw [if_neg empty, if_neg empty]
        exact .reads rfl (Nat.le_succ _) trivial rfl
    | closing =>
      refine .reports ?_
      simp only [Reader.step, Reader.readOperand, Cursor.missing]
      cases Cursor.operatorBehind ⟨behind, ⟨.closing, offset, nextStop⟩ :: rest, nesting⟩ <;> rfl
    | operator symbol =>
      cases symbol with
      | and => exact .reports rfl
      | or => exact .reports rfl
      | not => exact absurd rfl (wanted _ rfl)
    | opening =>
      refine Follows.enter counted fun entered => ?_
      have entered : nesting < limit := entered
      have inner := expressions ((offset, level) :: enclosing) .empty
        ⟨some ⟨.opening, offset, nextStop⟩, rest, nesting + 1⟩ rfl
        (by simp only [Level.empty, openAround, List.length_nil]; omega) entered
        (by simp only [calls]; omega)
      refine Follows.bind inner fun operand cursor restored shorter ends => ?_
      refine Follows.leave restored ?_
      obtain ⟨innerBehind, ahead, innerNesting⟩ := cursor
      cases ahead with
      | nil => exact .reports rfl
      | cons closing behindClosing =>
        obtain ⟨token, closingOffset, closingStop⟩ := closing
        cases token with
        | closing =>
          refine .reads rfl ?_ trivial ?_
          · exact Nat.le_trans (Nat.le_succ _) (Nat.le_succ_of_le shorter)
          · exact complete_cons limit stop _ _ _
        | pattern text => exact .reports rfl
        | opening => exact .reports rfl
        | operator symbol => exact absurd rfl (ends _ rfl symbol)

/-- Every call that has enough fuel is in step with the parser. The induction is on the fuel. -/
theorem read_inStep (limit stop fuel : Nat) (category : Category) :
    InStep limit stop fuel category := by
  induction fuel generalizing category with
  | zero =>
    intro enclosing level cursor _ _ _ fueled
    have positive : 0 < calls category := by cases category <;> decide
    omega
  | succ fuel inductionHypothesis =>
    cases category with
    | expression => exact expression_inStep (inductionHypothesis .conjunction)
    | conjunction => exact conjunction_inStep (inductionHypothesis .negation)
    | negation =>
      exact negation_inStep (inductionHypothesis .negation) (inductionHypothesis .primary)
    | primary => exact primary_inStep (inductionHypothesis .expression)

/-- Where an expression was read in step with the parser, both end in the same way. -/
theorem conclude_of_follows {nesting bound : Nat} {parsed : Except ParseError (Formula String)}
    {outcome : Except Fault (Operand × Cursor)}
    (follows : Follows nesting bound (Ended · .expression) parsed
      (fun operand ahead => Reader.take limit [] .empty operand >>= (complete limit stop · ahead))
      outcome) :
    (outcome >>= fun (operand, cursor) => conclude operand cursor) = report parsed := by
  cases follows with
  | reports fails =>
    rw [fails]
    rfl
  | @reads operand cursor _ _ ends goesOn =>
    rw [goesOn]
    obtain ⟨behind, ahead, nesting⟩ := cursor
    cases ahead with
    | nil => rfl
    | cons next rest =>
      obtain ⟨token, offset, nextStop⟩ := next
      cases token with
      | closing => rfl
      | pattern text => rfl
      | opening => rfl
      | operator symbol => exact absurd rfl (ends _ rfl symbol)

/-- With four calls for each level that may be open, and four besides, the descent comes to what the
parser comes to. -/
theorem parse_eq_report (limit spare : Nat) (tokens : List Spanned) :
    parse limit (4 * (limit + 1) + spare) tokens = report (parseWithin limit tokens) := by
  unfold parse parseWithin
  cases tokens.getLast? with
  | none => rfl
  | some last =>
    have inStep := read_inStep limit last.stop (4 * (limit + 1) + spare) .expression
    exact conclude_of_follows (inStep [] .empty ⟨none, tokens, 0⟩ rfl rfl (Nat.zero_le _)
      (by simp only [calls]; omega))

end Descent

/-- The parser can be run by recursive descent, by routines for the four categories of the grammar
that call each other. For all tokens, however many and whichever, no more than
`4 * (maxDepth + 1)` of these calls are active at once: with fuel for so many the descent comes to
the result of the parser, whether there is fuel to spare or not. So it never runs out of fuel, none
of its loops goes on without end, the count of open levels never drops below zero, and no primary is
looked for where a NOT stands. -/
theorem descent_eq_parse (tokens : List Spanned) (spare : Nat) :
    Descent.parse maxDepth (4 * (maxDepth + 1) + spare) tokens =
      (parse tokens).mapError Descent.Fault.reported :=
  Descent.parse_eq_report maxDepth spare tokens

end LinkSieve.Expression
