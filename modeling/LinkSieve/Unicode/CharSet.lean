import LinkSieve.Unicode.Class
/-!
# Sets of characters

A set of characters is a list of inclusive intervals of code points, in increasing order and with a
gap between each two neighbours. The operations are those of character classes in patterns: union,
complement, and what follows from these two.

Surrogate code points may be in a set. They are not characters, so no member test sees them.
-/

namespace LinkSieve.Unicode

/-- A set of code points as increasing, separated, inclusive intervals. -/
structure CharSet where
  ranges : List (Nat × Nat)
  deriving Repr, BEq

namespace CharSet

/-- The greatest code point. -/
def last : Nat := 0x10FFFF

/-- Joins neighbouring intervals that overlap or touch, in a list that is ordered by first points. -/
def join : List (Nat × Nat) → List (Nat × Nat)
  | (low, high) :: (low', high') :: rest =>
    if low' ≤ high + 1 then join ((low, max high high') :: rest)
    else (low, high) :: join ((low', high') :: rest)
  | short => short
termination_by ranges => ranges.length

/-- The points of some intervals, in any order and overlapping in any way. -/
def ofRanges (ranges : List (Nat × Nat)) : CharSet :=
  ⟨join (ranges.mergeSort fun left right => left.1 ≤ right.1)⟩

/-- The set without members. -/
def empty : CharSet := ⟨[]⟩

/-- The set of all code points. -/
def full : CharSet := ⟨[(0, last)]⟩

/-- The set of one character. -/
def singleton (c : Char) : CharSet := ⟨[(c.toNat, c.toNat)]⟩

/-- The code points from one character to another. -/
def interval (first final : Char) : CharSet := ⟨[(first.toNat, final.toNat)]⟩

/-- Whether a character is in the set. -/
def contains (set : CharSet) (c : Char) : Bool := within set.ranges c.toNat

/-- Whether the set has a member below a bound only. -/
def isBelow (set : CharSet) (bound : Nat) : Bool := set.ranges.all fun range => range.2 < bound

/-- The points in either set. -/
def union (left right : CharSet) : CharSet := ofRanges (left.ranges ++ right.ranges)

/-- The union of several sets. -/
def unions (sets : List CharSet) : CharSet := ofRanges (sets.flatMap ranges)

/-- The intervals between those of a list, beginning at the point `start`. -/
def gaps (start : Nat) : List (Nat × Nat) → List (Nat × Nat)
  | [] => if start ≤ last then [(start, last)] else []
  | (low, high) :: rest =>
    if start < low then (start, low - 1) :: gaps (high + 1) rest else gaps (high + 1) rest

/-- The points that are not in the set. -/
def complement (set : CharSet) : CharSet := ⟨gaps 0 set.ranges⟩

/-- The points in both sets. -/
def inter (left right : CharSet) : CharSet := (left.complement.union right.complement).complement

/-- The points of the first set that are not in the second. -/
def diff (left right : CharSet) : CharSet := (left.complement.union right).complement

/-- The points in exactly one of the sets. -/
def symmDiff (left right : CharSet) : CharSet := (left.diff right).union (right.diff left)

/-- The value of a hexadecimal numeral in upper case. -/
def hexValue (digits : List Char) : Nat :=
  digits.foldl (fun value c =>
    16 * value + (if c.isDigit then c.toNat - '0'.toNat else c.toNat + 10 - 'A'.toNat)) 0

/-- The value of a decimal numeral. -/
def decimalValue (digits : List Char) : Nat :=
  digits.foldl (fun value c => 10 * value + (c.toNat - '0'.toNat)) 0

/-- The intervals that one entry of a property table denotes: a point `A`, an interval `A-B`, or the
points `A`, `A+d`, … up to `B` in `A-B/d`. -/
def entryRanges (entry : List Char) : List (Nat × Nat) :=
  let (points, step) := entry.span (· ≠ '/')
  let (first, final) := points.span (· ≠ '-')
  let low := hexValue first
  let high := if final.isEmpty then low else hexValue (final.drop 1)
  if step.isEmpty then [(low, high)]
  else
    let distance := decimalValue (step.drop 1)
    (List.range ((high - low) / distance + 1)).map fun index =>
      (low + index * distance, low + index * distance)

/-- The words of a text that are separated by white space. -/
def words (text : List Char) : List (List Char) :=
  (text.splitBy fun left right => !left.isWhitespace && !right.isWhitespace).filter
    fun part => part.any fun c => !c.isWhitespace

/-- Reads the members column of a property table. -/
def ofText (text : String) : CharSet := ofRanges ((words text.toList).flatMap entryRanges)

end CharSet

/-- The alphabetic characters as a set. -/
def alphabeticSet : CharSet := .ofRanges ((0x41, 0x5A) :: (0x61, 0x7A) :: alphabeticRanges)

/-- The decimal digits as a set. -/
def decimalSet : CharSet := .ofRanges ((0x30, 0x39) :: decimalRanges)

/-- The combining marks as a set. -/
def markSet : CharSet := .ofRanges markRanges

/-- White space as a set. -/
def whitespaceSet : CharSet :=
  .ofRanges [(0x09, 0x0D), (0x20, 0x20), (0x85, 0x85), (0xA0, 0xA0), (0x1680, 0x1680),
    (0x2000, 0x200A), (0x2028, 0x2029), (0x202F, 0x202F), (0x205F, 0x205F), (0x3000, 0x3000)]

/-- The word characters as a set. -/
def wordSet : CharSet :=
  .unions [alphabeticSet, markSet, decimalSet, .ofRanges ((0x5F, 0x5F) :: connectorRanges),
    .ofRanges [(0x200C, 0x200D)]]

example : (CharSet.ofText "41-43 45-49/2").ranges = [(0x41, 0x43), (0x45, 0x45), (0x47, 0x47),
    (0x49, 0x49)] := by cbv
example : (CharSet.ofRanges [(5, 9), (1, 2), (3, 3), (8, 12)]).ranges = [(1, 3), (5, 12)] := by cbv
example : (CharSet.interval 'b' 'y').complement.ranges = [(0, 0x61), (0x7A, 0x10FFFF)] := by decide

end LinkSieve.Unicode
