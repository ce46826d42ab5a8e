import LinkSieve.Regex.Expr
/-!
# Searching

An expression relates the places of a text: it leads from one place to another if it matches the
characters between them. Only the existence of a match is asked for, so the search follows sets of
places. It starts from all of them and asks whether any place is reached.

A set of places is a number whose bits are the places, the lowest bit being the beginning of the text.
Matching a character of a set keeps the places before such a character and moves each to the next one.
The time is bounded by a polynomial in the length of the text, whatever the expression.
-/

namespace LinkSieve.Regex

open LinkSieve.Unicode

/-- An expression with each set and condition replaced by the places where it holds in one text. -/
inductive Walk where
  | stay
  | step (before : Nat)
  | filter (kept : Nat)
  | sequence (first second : Walk)
  | choice (first second : Walk)
  | repetition (count : Count) (operand : Walk)

/-- The number whose bits are the given truth values, the first one lowest. -/
def bits : List Bool → Nat
  | [] => 0
  | bit :: rest => 2 * bits rest + bit.toNat

/-- The places of a text, each as the character before it and the character after it. -/
def places : Option Char → List Char → List (Option Char × Option Char)
  | before, [] => [(before, none)]
  | before, c :: rest => (before, some c) :: places (some c) rest

/-- Whether a character belongs to a word. -/
def isWordIn (unicode : Bool) (c : Char) : Bool :=
  if unicode then isWord c else c.isAlphanum || c == '_'

/-- Whether a condition holds between two characters. -/
def Condition.holds (condition : Condition) (before after : Option Char) : Bool :=
  let wordBefore := fun unicode => before.any (isWordIn unicode)
  let wordAfter := fun unicode => after.any (isWordIn unicode)
  match condition with
  | textStart => before.isNone
  | textEnd => after.isNone
  | lineStart false => before.isNone || before = some '\n'
  | lineStart true =>
    before.isNone || before = some '\n' || (before = some '\r' && after ≠ some '\n')
  | lineEnd false => after.isNone || after = some '\n'
  | lineEnd true => after.isNone || after = some '\r' || (after = some '\n' && before ≠ some '\r')
  | wordBoundary unicode => wordBefore unicode != wordAfter unicode
  | notWordBoundary unicode => wordBefore unicode == wordAfter unicode
  | wordStart unicode => !wordBefore unicode && wordAfter unicode
  | wordEnd unicode => wordBefore unicode && !wordAfter unicode
  | wordStartHalf unicode => !wordBefore unicode
  | wordEndHalf unicode => !wordAfter unicode

/-- Evaluates the sets and conditions of an expression in a text. -/
def Expr.walk (text : List Char) : Expr → Walk
  | empty => .stay
  | set chars => .step (bits (text.map chars.contains))
  | condition asked =>
    .filter (bits ((places none text).map fun (before, after) => asked.holds before after))
  | sequence first second => .sequence (first.walk text) (second.walk text)
  | choice first second => .choice (first.walk text) (second.walk text)
  | repetition count operand => .repetition count (operand.walk text)
  | capture contents => contents.walk text

/-- Applies a function a number of times, or until it changes nothing. -/
def applyUntilStable (change : Nat → Nat) : Nat → Nat → Nat
  | 0, places => places
  | times + 1, places =>
    let next := change places
    if next = places then places else applyUntilStable change times next

/-- The places that a walk reaches from some places. In a text with fewer than `bound` places, more
than `bound` repetitions reach the same places as `bound` repetitions do. -/
def Walk.reach (bound : Nat) : Walk → Nat → Nat
  | stay, places => places
  | step before, places => (places &&& before) <<< 1
  | filter kept, places => places &&& kept
  | sequence first second, places => second.reach bound (first.reach bound places)
  | choice first second, places => first.reach bound places ||| second.reach bound places
  | repetition count operand, places =>
    let required := applyUntilStable (operand.reach bound) (min count.least bound) places
    let optional := match count.most with
      | none => bound
      | some most => min (most - count.least) bound
    applyUntilStable (fun places => places ||| operand.reach bound places) optional required

/-- Whether an expression matches somewhere in a text. -/
def Expr.occursIn (expr : Expr) (text : List Char) : Bool :=
  let bound := text.length + 2
  (expr.walk text).reach bound ((1 <<< (text.length + 1)) - 1) != 0

end LinkSieve.Regex
