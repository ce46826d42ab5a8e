import LinkSieve.Expression.Parser
/-!
# What the parser reports

Whether a token sequence is an expression, and what is reported where it is none, is found by a
scan from left to right. The scan builds nothing. It remembers whether an operand is wanted, where
the open parentheses stand, and the token before.

The parser reports what the scan reports, unless it reports a level too many. It looks ahead as
little as the scan does: precedence decides what the operands of an operator are, and never whether
a token is in place.
-/

namespace LinkSieve.Expression

/-- What a scan remembers between two tokens. The offsets of the open parentheses stand with that
of the innermost one first. -/
structure Scan where
  wanting : Bool
  opened : List Nat
  previous : Option Spanned
  deriving Repr, DecidableEq

namespace Scan

/-- The scan before the first token. -/
def start : Scan := ⟨true, [], none⟩

/-- The operator just before the next token, with its position. -/
def operatorBefore (scan : Scan) : Option (Operator × Nat) :=
  match scan.previous with
  | some ⟨.operator symbol, offset, _⟩ => some (symbol, offset)
  | _ => none

/-- What is reported where an operand is missing: the operator just before lacks it. Without such an
operator something else is reported. -/
def missing (scan : Scan) (otherwise : ParseError) : ParseError :=
  match scan.operatorBefore with
  | some (symbol, position) => ⟨position, .missingOperand symbol⟩
  | none => otherwise

/-- What may stand after an operand. -/
def expected (scan : Scan) : Expectation :=
  if scan.opened.isEmpty then .operatorOrEnd else .operatorOrClosing

/-- A token where an operand is wanted. -/
def operand (scan : Scan) (next : Spanned) : Except ParseError Scan :=
  match next.token with
  | .pattern text =>
    if text = "" then .error ⟨next.offset, .emptyPattern⟩
    else .ok ⟨false, scan.opened, some next⟩
  | .opening => .ok ⟨true, next.offset :: scan.opened, some next⟩
  | .operator .not => .ok ⟨true, scan.opened, some next⟩
  | .operator symbol => .error ⟨next.offset, .missingOperand symbol⟩
  | .closing => .error (scan.missing ⟨next.offset, .unexpectedToken .closing .operand⟩)

/-- A token where an operator is wanted. -/
def operator (scan : Scan) (next : Spanned) : Except ParseError Scan :=
  match next.token with
  | .operator _ => .ok ⟨true, scan.opened, some next⟩
  | .closing =>
    match scan.opened with
    | [] => .error ⟨next.offset, .unmatchedParenthesis⟩
    | _ :: outer => .ok ⟨false, outer, some next⟩
  | .pattern _ | .opening => .error ⟨next.offset, .unexpectedToken next.token scan.expected⟩

/-- Scans one token. -/
def step (scan : Scan) (next : Spanned) : Except ParseError Scan :=
  if scan.wanting then scan.operand next else scan.operator next

/-- Ends a scan. The innermost open parenthesis is the one that is reported. -/
def finish (scan : Scan) : Except ParseError Unit :=
  match scan.previous with
  | none => .error ⟨0, .emptyExpression⟩
  | some last =>
    if scan.wanting then .error (scan.missing ⟨last.stop, .unexpectedEnd .operand⟩)
    else
      match scan.opened with
      | [] => .ok ()
      | position :: _ => .error ⟨position, .unclosedParenthesis⟩

/-- Scans tokens up to the end. -/
def run (scan : Scan) : List Spanned → Except ParseError Unit
  | [] => scan.finish
  | next :: rest => do (← scan.step next).run rest

end Scan

/-- A computation of the parser and one of the scan that come to the same: they report the same
error, or they lead to results that are related. Where the parser reports a level too many, nothing
is said of the scan. -/
inductive SameVerdict {α β : Type} (related : α → β → Prop) :
    Except ParseError α → Except ParseError β → Prop where
  | tooDeep (position : Nat) (scanned : Except ParseError β) :
      SameVerdict related (.error ⟨position, .tooDeep⟩) scanned
  | error (error : ParseError) : SameVerdict related (.error error) (.error error)
  | ok {value : α} {other : β} (holds : related value other) :
      SameVerdict related (.ok value) (.ok other)

namespace SameVerdict

variable {α β γ δ : Type} {related : α → β → Prop} {outcome : γ → δ → Prop}
  {read : Except ParseError α} {scanned : Except ParseError β}

/-- Computations come to the same if their first parts do, and their second parts do after related
results. -/
theorem bind {next : α → Except ParseError γ} {continued : β → Except ParseError δ}
    (first : SameVerdict related read scanned)
    (second : ∀ value other, scanned = .ok other → related value other →
      SameVerdict outcome (next value) (continued other)) :
    SameVerdict outcome (read >>= next) (scanned >>= continued) := by
  cases first with
  | tooDeep position => exact .tooDeep position _
  | error error => exact .error error
  | ok holds => exact second _ _ rfl holds

/-- A computation of the parser that only checks depths has no counterpart in the scan. -/
theorem bind_ok {next : α → Except ParseError γ} {continued : Except ParseError δ} {other : β}
    (first : SameVerdict related read (.ok other))
    (second : ∀ value, related value other → SameVerdict outcome (next value) continued) :
    SameVerdict outcome (read >>= next) continued := by
  cases first with
  | tooDeep position => exact .tooDeep position _
  | ok holds => exact second _ holds

/-- Without a level too many, the parser succeeds where the scan does and fails as the scan does. -/
theorem map_eq (same : SameVerdict related read scanned)
    (shallow : ∀ position, read ≠ .error ⟨position, .tooDeep⟩) :
    read.map (fun _ => ()) = scanned.map fun _ => () := by
  cases same with
  | tooDeep position => exact absurd rfl (shallow position)
  | error error => rfl
  | ok holds => rfl

end SameVerdict

/-- A reader and a scan that have gone through the same tokens: the same parentheses are open, and
they want the same. The operator that a reader would blame is the one just before. -/
structure Tracks (reader : Reader) (scan : Scan) : Prop where
  opened : scan.opened = reader.enclosing.map Prod.fst
  wanting : ∀ blame, reader.mode = .wanting blame →
    scan.wanting = true ∧ blame = scan.operatorBefore
  holding : ∀ operand, reader.mode = .holding operand → scan.wanting = false

namespace Tracks

/-- A reader and a scan that want an operand. -/
theorem wants (enclosing : List (Nat × Level)) (level : Level) (scan : Scan)
    (opened : scan.opened = enclosing.map Prod.fst) (wanting : scan.wanting = true) :
    Tracks ⟨enclosing, level, .wanting scan.operatorBefore⟩ scan where
  opened := opened
  wanting := by
    rintro blame ⟨⟩
    exact ⟨wanting, rfl⟩
  holding := nofun

/-- A reader and a scan that want an operator. -/
theorem holds (enclosing : List (Nat × Level)) (level : Level) (operand : Operand) (scan : Scan)
    (opened : scan.opened = enclosing.map Prod.fst) (wanting : scan.wanting = false) :
    Tracks ⟨enclosing, level, .holding operand⟩ scan where
  opened := opened
  wanting := nofun
  holding := by
    intro _ _
    exact wanting

/-- Before the first token. -/
theorem start : Tracks .start .start := wants [] .empty .start rfl rfl

end Tracks

variable (limit : Nat)

/-- A depth check passes or reports a level too many. -/
theorem within_sameVerdict (operand : Operand) (position : Nat) :
    SameVerdict (fun _ _ => True) (operand.within limit position) (.ok ()) := by
  unfold Operand.within
  split
  next => exact .ok trivial
  next => exact .tooDeep position _

/-- Negating an operand checks depths only. The induction is on the NOTs that wait. -/
theorem negate_sameVerdict (negations : List Nat) (operand : Operand) :
    SameVerdict (fun _ _ => True) (Level.negate limit negations operand) (.ok ()) := by
  induction negations generalizing operand with
  | nil => exact .ok trivial
  | cons position outer inductionHypothesis =>
    exact (within_sameVerdict limit operand.not position).bind_ok fun negated _ =>
      inductionHypothesis negated

/-- Joining an operand to an AND or NOT checks depths only. -/
theorem conjoin_sameVerdict (waiting : Option Conjunction) (operand : Operand) :
    SameVerdict (fun _ _ => True) (Level.conjoin limit waiting operand) (.ok ()) := by
  cases waiting with
  | none => exact .ok trivial
  | some waiting =>
    obtain ⟨left, negated, position⟩ := waiting
    have joined (right : Operand) := within_sameVerdict limit (left.and right) position
    cases negated with
    | false => exact joined operand
    | true =>
      exact (within_sameVerdict limit operand.not position).bind_ok fun right _ => joined right

/-- Joining an operand to an OR checks depths only. -/
theorem disjoin_sameVerdict (waiting : Option Disjunction) (operand : Operand) :
    SameVerdict (fun _ _ => True) (Level.disjoin limit waiting operand) (.ok ()) := by
  cases waiting with
  | none => exact .ok trivial
  | some waiting => exact within_sameVerdict limit _ _

/-- A reader that takes an operand goes on as a scan that wants an operator. -/
theorem take_sameVerdict {enclosing : List (Nat × Level)} {scan : Scan} (level : Level)
    (operand : Operand) (opened : scan.opened = enclosing.map Prod.fst)
    (wanting : scan.wanting = false) :
    SameVerdict Tracks (Reader.take limit enclosing level operand) (.ok scan) := by
  refine (negate_sameVerdict limit level.negations operand).bind_ok fun negated _ => ?_
  refine (conjoin_sameVerdict limit level.conjunction negated).bind_ok fun conjoined _ => ?_
  exact .ok (Tracks.holds enclosing _ conjoined scan opened wanting)

/-- A reader that enters a parenthesis or prefix NOT goes on as a scan, unless it is full. -/
theorem enter_sameVerdict {reader entered : Reader} {scan : Scan} (position : Nat)
    (tracks : Tracks entered scan) :
    SameVerdict Tracks (reader.enter limit position entered) (.ok scan) := by
  unfold Reader.enter
  split
  next => exact .ok tracks
  next => exact .tooDeep position _

/-- Where an operand is wanted, the parser finds of a token what the scan finds. -/
theorem readOperand_sameVerdict {reader : Reader} {scan : Scan}
    (opened : scan.opened = reader.enclosing.map Prod.fst) (next : Spanned) :
    SameVerdict Tracks (reader.readOperand limit scan.operatorBefore next) (scan.operand next) := by
  obtain ⟨token, offset, stop⟩ := next
  cases token with
  | pattern text =>
    by_cases empty : text = ""
    · subst empty
      exact .error _
    · have nonempty : text.toList.isEmpty = false := by simpa using empty
      simp only [Reader.readOperand, Scan.operand, nonempty, empty, if_false, Bool.false_eq_true]
      exact take_sameVerdict limit _ _ opened rfl
  | opening =>
    refine enter_sameVerdict limit offset ?_
    exact Tracks.wants ((offset, reader.level) :: reader.enclosing) .empty
      ⟨true, offset :: scan.opened, some ⟨.opening, offset, stop⟩⟩ (congrArg _ opened) rfl
  | closing =>
    unfold Reader.readOperand Scan.operand Scan.missing
    cases scan.operatorBefore with
    | none => exact .error _
    | some blamed => exact .error _
  | operator symbol =>
    cases symbol with
    | and => exact .error _
    | or => exact .error _
    | not =>
      refine enter_sameVerdict limit offset ?_
      exact Tracks.wants reader.enclosing _
        ⟨true, scan.opened, some ⟨.operator .not, offset, stop⟩⟩ opened rfl

/-- Where an operator is wanted, the parser finds of a token what the scan finds. An OR, a closing
parenthesis and a token out of place first let a waiting OR take its right operand. -/
theorem readOperator_sameVerdict {reader : Reader} {scan : Scan} (operand : Operand)
    (opened : scan.opened = reader.enclosing.map Prod.fst) (next : Spanned) :
    SameVerdict Tracks (reader.readOperator limit operand next) (scan.operator next) := by
  obtain ⟨token, offset, stop⟩ := next
  have joins := disjoin_sameVerdict limit reader.level.disjunction operand
  have sameExpected :
      (if reader.enclosing.isEmpty then Expectation.operatorOrEnd else .operatorOrClosing) =
        scan.expected := by
    rw [Scan.expected, opened, List.isEmpty_map]
  cases token with
  | pattern text =>
    refine joins.bind_ok fun _ _ => ?_
    rw [sameExpected]
    exact .error _
  | opening =>
    refine joins.bind_ok fun _ _ => ?_
    rw [sameExpected]
    exact .error _
  | closing =>
    refine joins.bind_ok fun inner _ => ?_
    unfold Scan.operator
    rw [opened]
    cases reader.enclosing with
    | nil => exact .error _
    | cons innermost enclosing => exact take_sameVerdict limit _ _ rfl rfl
  | operator symbol =>
    have waits : scan.operator ⟨.operator symbol, offset, stop⟩ =
        .ok ⟨true, scan.opened, some ⟨.operator symbol, offset, stop⟩⟩ := rfl
    rw [waits]
    have tracks (level : Level) :
        Tracks ⟨reader.enclosing, level, .wanting (some (symbol, offset))⟩
          ⟨true, scan.opened, some ⟨.operator symbol, offset, stop⟩⟩ :=
      Tracks.wants _ level ⟨true, scan.opened, some ⟨.operator symbol, offset, stop⟩⟩ opened rfl
    cases symbol with
    | and => exact .ok (tracks _)
    | not => exact .ok (tracks _)
    | or => exact joins.bind_ok fun left _ => .ok (tracks _)

/-- The parser and the scan find the same of every token, and go on in step. -/
theorem step_sameVerdict {reader : Reader} {scan : Scan} (tracks : Tracks reader scan)
    (next : Spanned) : SameVerdict Tracks (reader.step limit next) (scan.step next) := by
  unfold Reader.step Scan.step
  cases mode : reader.mode with
  | wanting blame =>
    obtain ⟨wanting, rfl⟩ := tracks.wanting blame mode
    rw [wanting, if_pos rfl]
    exact readOperand_sameVerdict limit tracks.opened next
  | holding operand =>
    rw [tracks.holding operand mode, if_neg Bool.false_ne_true]
    exact readOperator_sameVerdict limit operand tracks.opened next

/-- The parser and the scan find the same at the end of some tokens. -/
theorem finish_sameVerdict {reader : Reader} {scan : Scan} (tracks : Tracks reader scan)
    {last : Spanned} (previous : scan.previous = some last) :
    SameVerdict (fun _ _ => True) (reader.finish limit last.stop) scan.finish := by
  unfold Reader.finish Scan.finish
  rw [previous]
  cases mode : reader.mode with
  | wanting blame =>
    obtain ⟨wanting, rfl⟩ := tracks.wanting blame mode
    simp only [wanting, if_true, Scan.missing]
    cases scan.operatorBefore with
    | none => exact .error _
    | some blamed => exact .error _
  | holding operand =>
    simp only [tracks.holding operand mode, Bool.false_eq_true, if_false]
    refine (disjoin_sameVerdict limit reader.level.disjunction operand).bind_ok fun whole _ => ?_
    rw [tracks.opened]
    cases reader.enclosing with
    | nil => exact .ok trivial
    | cons innermost enclosing => exact .error _

/-- A scan remembers the token that it has gone past. -/
theorem Scan.previous_of_step {scan stepped : Scan} {next : Spanned}
    (ok : scan.step next = .ok stepped) : stepped.previous = some next := by
  unfold step operand operator at ok
  grind

/-- From a reader and a scan in step, the parser and the scan come to the same over all tokens that
are left. The induction is on these tokens. The byte at which an end would be reported is where the
last token stops, and this is the token before if no tokens are left. -/
theorem run_sameVerdict (tokens : List Spanned) {reader : Reader} {scan : Scan}
    (tracks : Tracks reader scan) {last : Spanned}
    (isLast : tokens.getLast?.or scan.previous = some last) :
    SameVerdict (fun _ _ => True)
      (tokens.foldlM (Reader.step limit) reader >>= (Reader.finish limit · last.stop))
      (scan.run tokens) := by
  induction tokens generalizing reader scan with
  | nil => exact finish_sameVerdict limit tracks isLast
  | cons next rest inductionHypothesis =>
    rw [List.foldlM_cons, bind_assoc, Scan.run]
    refine (step_sameVerdict limit tracks next).bind fun read scanned stepped inStep => ?_
    refine inductionHypothesis inStep ?_
    rw [Scan.previous_of_step stepped]
    rw [List.getLast?_cons] at isLast
    cases ended : rest.getLast? with
    | none => simpa [ended] using isLast
    | some final => simpa [ended] using isLast

/-- Parsing under any limit comes to the same as the scan. -/
theorem parseWithin_sameVerdict (tokens : List Spanned) :
    SameVerdict (fun _ _ => True) (parseWithin limit tokens) (Scan.start.run tokens) := by
  unfold parseWithin
  cases ended : tokens.getLast? with
  | none =>
    rw [List.getLast?_eq_none_iff.mp ended]
    exact .error _
  | some last => exact run_sameVerdict limit tokens .start (by rw [ended]; rfl)

/-- The parser accepts what the scan accepts. What it does not accept it reports as the scan does,
for the same reason and at the same position, unless it reports a level too many. -/
theorem parse_map_eq_scan (tokens : List Spanned)
    (shallow : ∀ position, parse tokens ≠ .error ⟨position, .tooDeep⟩) :
    (parse tokens).map (fun _ => ()) = Scan.start.run tokens := by
  have same := (parseWithin_sameVerdict maxDepth tokens).map_eq shallow
  rw [show parse tokens = parseWithin maxDepth tokens from rfl, same]
  cases Scan.start.run tokens <;> rfl

/-- An operator that lacks its operand before a closing parenthesis is reported at its own offset,
and neither the parenthesis nor the end of the tokens is. -/
theorem parse_map_eq_scan_missing :
    let tokens : List Spanned :=
      [⟨.opening, 0, 1⟩, ⟨.pattern "a", 1, 4⟩, ⟨.operator .or, 5, 7⟩, ⟨.closing, 7, 8⟩]
    (∀ position, parse tokens ≠ .error ⟨position, .tooDeep⟩) ∧
      (parse tokens).map (fun _ => ()) = Scan.start.run tokens ∧
      Scan.start.run tokens = .error ⟨5, .missingOperand .or⟩ := by
  intro tokens
  have parsed : parse tokens = .error ⟨5, .missingOperand .or⟩ := by cbv
  have shallow : ∀ position, parse tokens ≠ .error ⟨position, .tooDeep⟩ := by
    rw [parsed]
    nofun
  exact ⟨shallow, parse_map_eq_scan tokens shallow, rfl⟩

end LinkSieve.Expression
