import LinkSieve.Unicode.Class
import LinkSieve.Proofs.Text.Case
/-!
# Classes of characters are disjoint

White space is a short list of code points. None of them is in the tables of letters and numbers,
so no character is both white space and part of a word, and a text has only one division into
words and gaps. The same holds of the characters between which there is no word boundary, and small
and capital letters are alike in this.
-/

namespace LinkSieve.Unicode

/-- The code points of white space. -/
def whitespacePoints : List Nat :=
  [0x09, 0x0A, 0x0B, 0x0C, 0x0D, 0x20, 0x85, 0xA0, 0x1680, 0x2000, 0x2001, 0x2002, 0x2003, 0x2004,
    0x2005, 0x2006, 0x2007, 0x2008, 0x2009, 0x200A, 0x2028, 0x2029, 0x202F, 0x205F, 0x3000]

/-- White space has no other code points than the listed ones. -/
theorem toNat_mem_whitespacePoints {c : Char} (blank : isWhitespace c = true) :
    c.toNat ∈ whitespacePoints := by
  simp only [isWhitespace] at blank
  simp only [whitespacePoints, List.mem_cons, List.not_mem_nil, or_false]
  split at blank
  · simp only [Bool.or_eq_true, Bool.and_eq_true, decide_eq_true_eq, beq_iff_eq] at blank
    omega
  · simp only [Bool.or_eq_true, Bool.and_eq_true, decide_eq_true_eq, beq_iff_eq] at blank
    omega

/-- Whether a character of a code point is a letter or a number. -/
def isAlphanumericPoint (point : Nat) : Bool :=
  if point < 0x80 then
    (0x41 ≤ point && point ≤ 0x5A) || (0x61 ≤ point && point ≤ 0x7A) ||
      (0x30 ≤ point && point ≤ 0x39)
  else
    within alphabeticRanges point || within decimalRanges point || within otherNumberRanges point

/-- Being a letter or a number is a matter of the code point. -/
theorem isAlphanumeric_eq (c : Char) : isAlphanumeric c = isAlphanumericPoint c.toNat := by
  unfold isAlphanumeric isAlphanumericPoint
  split
  · unfold Char.isAlphanum Char.isAlpha Char.isUpper Char.isLower Char.isDigit
    simp only [UInt32.le_iff_toNat_le, Char.toNat, ge_iff_le, Bool.decide_and]
    rfl
  · rfl

/-- No letter and no number is white space. -/
theorem isAlphanumeric_eq_false_of_isWhitespace {c : Char} (blank : isWhitespace c = true) :
    isAlphanumeric c = false := by
  have apart : ∀ point ∈ whitespacePoints, isAlphanumericPoint point = false := by decide +kernel
  rw [isAlphanumeric_eq]
  exact apart c.toNat (toNat_mem_whitespacePoints blank)

/-- Whether there is no word boundary between characters of a code point. -/
def isWordPoint (point : Nat) : Bool :=
  if point < 0x80 then
    (0x41 ≤ point && point ≤ 0x5A) || (0x61 ≤ point && point ≤ 0x7A) ||
      (0x30 ≤ point && point ≤ 0x39) || point == 0x5F
  else
    within alphabeticRanges point || within markRanges point || within decimalRanges point ||
      within connectorRanges point || point == 0x200C || point == 0x200D

/-- Being part of a word is a matter of the code point. -/
theorem isWord_eq (c : Char) : isWord c = isWordPoint c.toNat := by
  unfold isWord isWordPoint
  split
  · have underscore : (c == '_') = (c.toNat == 0x5F) := by
      rw [Bool.eq_iff_iff, beq_iff_eq, beq_iff_eq, ← Char.toNat_inj]
      exact Iff.rfl
    rw [underscore]
    unfold Char.isAlphanum Char.isAlpha Char.isUpper Char.isLower Char.isDigit
    simp only [UInt32.le_iff_toNat_le, Char.toNat, ge_iff_le, Bool.decide_and]
    rfl
  · rfl

/-- No part of a word is white space. -/
theorem isWord_eq_false_of_isWhitespace {c : Char} (blank : isWhitespace c = true) :
    isWord c = false := by
  have apart : ∀ point ∈ whitespacePoints, isWordPoint point = false := by decide +kernel
  rw [isWord_eq]
  exact apart c.toNat (toNat_mem_whitespacePoints blank)

/-- A letter is part of a word in either case. -/
theorem isWord_toLower (c : Char) : isWord c.toLower = isWord c := by
  rw [isWord_eq, isWord_eq, Text.toNat_toLower]
  split
  next capital =>
    have smallWord : isWordPoint (c.toNat + 32) = true := by
      rw [isWordPoint, if_pos (by omega)]
      simp only [Bool.or_eq_true, Bool.and_eq_true, decide_eq_true_eq]
      omega
    have capitalWord : isWordPoint c.toNat = true := by
      rw [isWordPoint, if_pos (by omega)]
      simp only [Bool.or_eq_true, Bool.and_eq_true, decide_eq_true_eq]
      omega
    rw [smallWord, capitalWord]
  next => rfl

end LinkSieve.Unicode
