import LinkSieve.Text.Trim
import LinkSieve.Link.Entity
/-!
# Links of a page

The links of a page are the `href` values of its anchors, in the order of the page. An anchor begins
with a less-than sign and the letter A, where a word ends. Its first `href` that is followed by a value
counts: where a word begins, before the next greater-than sign, with an equals sign and a value after
it. The search for the next anchor goes on after the value.

A value stands between double quotes, between single quotes, or runs on to the next white space, quote
or greater-than sign. Nothing else of the page's markup is looked at, so an anchor inside a comment
counts too.
-/

namespace LinkSieve.Link

open LinkSieve.Unicode LinkSieve.Text

/-- Reads a value up to a closing quote. -/
def quotedValue? (quote : Char) (text : List Char) : Option (List Char × List Char) :=
  match text.dropWhile (· ≠ quote) with
  | [] => none
  | _ :: after => some (text.takeWhile (· ≠ quote), after)

/-- The characters of a value without quotes. -/
def isPlainValueChar (c : Char) : Bool := !isWhitespace c && c != '"' && c != '\'' && c != '>'

/-- Reads a value. A quote opens a quoted value, which must be closed. -/
def value? (text : List Char) : Option (List Char × List Char) :=
  match text with
  | '"' :: rest => quotedValue? '"' rest
  | '\'' :: rest => quotedValue? '\'' rest
  | _ =>
    if (text.takeWhile isPlainValueChar).isEmpty then none
    else some (text.takeWhile isPlainValueChar, text.dropWhile isPlainValueChar)

/-- Reads an equals sign and a value, with any white space around the sign. -/
def assignedValue? (text : List Char) : Option (List Char × List Char) :=
  match text.dropWhile isWhitespace with
  | '=' :: rest => value? (rest.dropWhile isWhitespace)
  | _ => none

/-- Reads the attribute name `href` in any case, with its value. -/
def hrefValue? : List Char → Option (List Char × List Char)
  | h :: r :: e :: f :: rest =>
    if [h, r, e, f].map Char.toLower = ['h', 'r', 'e', 'f'] then assignedValue? rest else none
  | _ => none

/-- The first `href` value before the end of a tag, where `previous` is the character before the
text. -/
def anchorValue? (previous : Char) : List Char → Option (List Char × List Char)
  | [] => none
  | c :: rest =>
    match if isWord previous then none else hrefValue? (c :: rest) with
    | some found => some found
    | none => if c = '>' then none else anchorValue? c rest

/-- What remains after an attribute value is no longer than the text. -/
theorem quotedValue?_length {quote : Char} {text value after : List Char}
    (found : quotedValue? quote text = some (value, after)) : after.length ≤ text.length := by
  unfold quotedValue? at found
  have bound := (List.dropWhile_suffix (l := text) (· ≠ quote)).length_le
  split at found
  · cases found
  next closing rest same =>
    cases found
    rw [same, List.length_cons] at bound
    omega

/-- What remains after a value is no longer than the text. -/
theorem value?_length {text value after : List Char} (found : value? text = some (value, after)) :
    after.length ≤ text.length := by
  unfold value? at found
  split at found
  · exact Nat.le_succ_of_le (quotedValue?_length found)
  · exact Nat.le_succ_of_le (quotedValue?_length found)
  · split at found
    · cases found
    · cases found
      exact (List.dropWhile_suffix isPlainValueChar).length_le

/-- What remains after an assigned value is shorter than the text. -/
theorem assignedValue?_length {text value after : List Char}
    (found : assignedValue? text = some (value, after)) : after.length < text.length := by
  unfold assignedValue? at found
  split at found
  next rest same =>
    have spaces := (List.dropWhile_suffix (l := text) isWhitespace).length_le
    have moreSpaces := (List.dropWhile_suffix (l := rest) isWhitespace).length_le
    have bound := value?_length found
    rw [same, List.length_cons] at spaces
    omega
  · cases found

/-- What remains after a link is shorter than the text. -/
theorem hrefValue?_length {text value after : List Char}
    (found : hrefValue? text = some (value, after)) : after.length < text.length := by
  unfold hrefValue? at found
  split at found
  · split at found
    · have bound := assignedValue?_length found
      simp only [List.length_cons]
      omega
    · cases found
  · cases found

/-- What remains after the link of an anchor is shorter than the text. -/
theorem anchorValue?_length {previous : Char} {text value after : List Char}
    (found : anchorValue? previous text = some (value, after)) : after.length < text.length := by
  induction text generalizing previous with
  | nil => cases found
  | cons c rest inductionHypothesis =>
    unfold anchorValue? at found
    split at found
    next attempt same =>
      cases found
      split at same
      · cases same
      · exact hrefValue?_length same
    · split at found
      · cases found
      · exact Nat.lt_succ_of_lt (inductionHypothesis found)

/-- Whether a text begins where a word ends: with a character that is in no word. -/
def atWordEnd : List Char → Bool
  | [] => true
  | c :: _ => !isWord c

/-- The values of all anchors, as they are written. -/
def anchorValues : List Char → List (List Char)
  | '<' :: c :: rest =>
    if (c = 'a' ∨ c = 'A') ∧ atWordEnd rest then
      match found : anchorValue? c rest with
      | some (value, after) =>
        have := anchorValue?_length found
        value :: anchorValues after
      | none => anchorValues (c :: rest)
    else anchorValues (c :: rest)
  | _ :: rest => anchorValues rest
  | [] => []
termination_by text => text.length

/-- The links of a page: the values of its anchors without surrounding white space, with entities
decoded, and without those that are empty. -/
def extract (html : List Char) : List (List Char) :=
  ((anchorValues html).map fun value => decodeEntities (trim value)).filter fun link =>
    !link.isEmpty

end LinkSieve.Link
