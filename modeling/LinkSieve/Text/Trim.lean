import LinkSieve.Text.Cut
import LinkSieve.Unicode.Class
/-!
# Trimming

White space at the ends of a text is removed here in the Unicode sense.
-/

namespace LinkSieve.Text

/-- The text without white space at its end. -/
def trimRight (text : List Char) : List Char :=
  (text.reverse.dropWhile Unicode.isWhitespace).reverse

/-- The text without white space at its beginning and end. -/
def trim (text : List Char) : List Char :=
  trimRight (text.dropWhile Unicode.isWhitespace)

/-- A text that neither begins nor ends with white space stays as it is. -/
theorem trim_eq_self {text : List Char} (first : ∀ c ∈ text.head?, Unicode.isWhitespace c = false)
    (last : ∀ c ∈ text.getLast?, Unicode.isWhitespace c = false) : trim text = text := by
  have kept {part : List Char} (head : ∀ c ∈ part.head?, Unicode.isWhitespace c = false) :
      part.dropWhile Unicode.isWhitespace = part := by
    cases part with
    | nil => rfl
    | cons c rest => rw [List.dropWhile_cons_of_neg (by simp [head c rfl])]
  rw [← List.head?_reverse] at last
  rw [trim, trimRight, kept first, kept last, List.reverse_reverse]

section Padded

variable {before text after : List Char}

/-- White space behind a text that does not end with any is removed. -/
theorem trimRight_append (blank : ∀ c ∈ after, Unicode.isWhitespace c = true)
    (last : ∀ c ∈ text.getLast?, Unicode.isWhitespace c = false) :
    trimRight (text ++ after) = text := by
  rw [← List.head?_reverse] at last
  have dropped : (after.reverse ++ text.reverse).dropWhile Unicode.isWhitespace = text.reverse :=
    dropWhile_stretch (fun c member => blank c (List.mem_reverse.mp member)) last
  rw [trimRight, List.reverse_append, dropped, List.reverse_reverse]

/-- Nothing is left of white space. -/
theorem trim_blank (blank : ∀ c ∈ text, Unicode.isWhitespace c = true) : trim text = [] := by
  have dropped : (text ++ []).dropWhile Unicode.isWhitespace = [] :=
    dropWhile_stretch blank (by simp)
  rw [List.append_nil] at dropped
  rw [trim, dropped]
  rfl

/-- White space around a text that neither begins nor ends with any is removed. -/
theorem trim_append (blankBefore : ∀ c ∈ before, Unicode.isWhitespace c = true)
    (blankAfter : ∀ c ∈ after, Unicode.isWhitespace c = true)
    (first : ∀ c ∈ text.head?, Unicode.isWhitespace c = false)
    (last : ∀ c ∈ text.getLast?, Unicode.isWhitespace c = false) :
    trim (before ++ (text ++ after)) = text := by
  cases text with
  | nil =>
    refine trim_blank fun c member => ?_
    rcases List.mem_append.mp member with earlier | later
    · exact blankBefore c earlier
    · exact blankAfter c later
  | cons c rest =>
    have dropped : (before ++ (c :: rest ++ after)).dropWhile Unicode.isWhitespace =
        c :: rest ++ after := dropWhile_stretch blankBefore first
    rw [trim, dropped, trimRight_append blankAfter last]

end Padded

end LinkSieve.Text
