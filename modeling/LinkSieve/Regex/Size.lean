import LinkSieve.Regex.Expr
/-!
# The size of an automaton

Patterns are refused if the automaton that recognises them byte by byte would take more than a fixed
amount of memory. A counted repetition holds one copy of its operand for each repetition, so a short
pattern can ask for a large automaton.

The automaton is not built. Its size follows from the expression: a state takes 32 bytes, a branch to
another state four more, and an interval of ASCII characters eight. A set with characters beyond ASCII
is a tree of byte intervals with one state for each of its nodes.
-/

namespace LinkSieve.Regex

open LinkSieve.Unicode

/-- The number of bytes that an automaton may take. -/
def sizeLimit : Nat := 10 * 1024 * 1024

/-- The memory of a state. -/
def stateSize : Nat := 32

/-- The memory of a branch from a state with several successors. -/
def branchSize : Nat := 4

/-- The memory of an interval of bytes in a state that holds several. -/
def intervalSize : Nat := 8

/-- The bytes of a code point in UTF-8. -/
def utf8Bytes (point : Nat) : List Nat :=
  if point < 0x80 then [point]
  else if point < 0x800 then [0xC0 + point / 0x40, 0x80 + point % 0x40]
  else if point < 0x10000 then
    [0xE0 + point / 0x1000, 0x80 + point / 0x40 % 0x40, 0x80 + point % 0x40]
  else
    [0xF0 + point / 0x40000, 0x80 + point / 0x1000 % 0x40, 0x80 + point / 0x40 % 0x40,
      0x80 + point % 0x40]

/-- The least place at which an interval of code points has to be cut so that its first part is closer
to a product of byte intervals: first between lengths of the encoding, then at the end of the block
that holds the first point or at the beginning of the block that holds the last one. -/
def cutPoint? (low high : Nat) : Option Nat :=
  let betweenLengths := [0x80, 0x800, 0xD800, 0xE000, 0x10000].find? fun cut =>
    low < cut && cut ≤ high
  betweenLengths.or <| [0x40, 0x1000, 0x40000].findSome? fun block =>
    if low / block = high / block then none
    else if low % block ≠ 0 then some ((low / block + 1) * block)
    else if high % block ≠ block - 1 then some (high / block * block)
    else none

/-- The sequences of byte intervals that make up an interval of code points, without surrogates. The
last argument bounds the number of cuts, of which no interval needs more than two for each byte of an
encoding and one for each length. -/
def byteIntervals (low high : Nat) : Nat → List (List (Nat × Nat))
  | 0 => []
  | cuts + 1 =>
    match cutPoint? low high with
    | some cut => byteIntervals low (cut - 1) cuts ++ byteIntervals cut high cuts
    | none =>
      if 0xD800 ≤ low ∧ high < 0xE000 then []
      else [(utf8Bytes low).zip (utf8Bytes high)]

/-- The number of items that two lists have in common at their beginnings. -/
def commonPrefixLength {α : Type} [BEq α] : List α → List α → Nat
  | x :: xs, y :: ys => if x == y then commonPrefixLength xs ys + 1 else 0
  | _, _ => 0

/-- The number of nodes of the tree that holds some sequences, given in order, below the root. -/
def treeNodes {α : Type} [BEq α] (sequences : List (List α)) : Nat :=
  (sequences.foldl (fun (nodes, before) sequence =>
    (nodes + (sequence.length - commonPrefixLength before sequence), sequence)) (0, [])).1

/-- The memory of a set of characters. -/
def setSize (set : CharSet) : Nat :=
  match set.ranges with
  | [] => stateSize
  | [(low, high)] =>
    if low = high then stateSize * (utf8Bytes low).length
    else wide set.ranges
  | ranges => wide ranges
where
  wide (ranges : List (Nat × Nat)) : Nat :=
    if set.isBelow 0x80 then 2 * stateSize + intervalSize * ranges.length
    else
      let sequences := ranges.flatMap fun (low, high) => byteIntervals low high 16
      2 * stateSize + branchSize * sequences.length + stateSize * treeNodes sequences

/-- The memory of `count` repetitions of an operand that takes `operand` bytes. `consumes` tells
whether every match of the operand takes a character. -/
def repetitionSize (count : Count) (operand : Nat) (consumes : Bool) : Nat :=
  let fork := stateSize + 2 * branchSize
  match count.least, count.most with
  | 0, some 0 => stateSize
  | 1, some 1 => operand
  | 0, none => if consumes then operand + fork else operand + 2 * fork + stateSize
  | least, none => least * operand + fork
  | least, some most =>
    if least = most then least * operand
    else least * operand + stateSize + (most - least) * (operand + fork)

/-- The memory of the automaton for an expression. Repeating what takes no character more than once
adds nothing. -/
def Expr.size : Expr → Nat
  | empty => stateSize
  | set chars => setSize chars
  | condition _ => stateSize
  | sequence empty second => second.size
  | sequence first empty => first.size
  | sequence first second => first.size + second.size
  | choice first second => first.size + second.size + 2 * stateSize + 2 * branchSize
  | repetition count operand =>
    let count := if operand.isBlank then ⟨min count.least 1, some (min (count.most.getD 1) 1)⟩ else count
    repetitionSize count operand.size operand.consumes
  | capture contents => contents.size + 2 * stateSize

example : setSize (.interval 'a' 'z') = 72 := by decide
example : setSize (.singleton 'é') = 64 := by decide

end LinkSieve.Regex
