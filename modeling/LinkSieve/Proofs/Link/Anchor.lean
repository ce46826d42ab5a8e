import LinkSieve.Link.Anchor
import LinkSieve.Proofs.Unicode.Class
/-!
# The search for anchors

What the search for the links of a page passes and what it stops at, without the page around it. A text
without less-than signs is passed. Behind the beginning of an anchor, each place is passed that is
inside a word or at which no `href` with a value stands. An `href` has a value if nothing but white space
stands between the name and an equals sign, and a value is read in whichever way it is written.
-/

namespace LinkSieve.Link

open LinkSieve.Unicode LinkSieve.Text

/-- Whether a word is a name, given in small letters, in any case of its letters. -/
def IsCaseOf (word name : List Char) : Prop := word.map Char.toLower = name

instance (word name : List Char) : Decidable (IsCaseOf word name) :=
  inferInstanceAs (Decidable (_ = _))

/-- A word that spells a name of letters has no other characters. -/
theorem IsCaseOf.isWord {word name : List Char} (spelled : IsCaseOf word name)
    (letters : name.all Unicode.isWord = true) {c : Char} (member : c ∈ word) :
    Unicode.isWord c = true := by
  have small : c.toLower ∈ name := spelled ▸ List.mem_map_of_mem member
  rw [← isWord_toLower]
  exact List.all_eq_true.mp letters _ small

/-- A word is as long as the name that it spells. -/
theorem IsCaseOf.length_eq {word name : List Char} (spelled : IsCaseOf word name) :
    word.length = name.length := by
  rw [← spelled, List.length_map]

/-- The name of the attribute with the link. -/
def hrefName : List Char := "href".toList

/-- The name of the attribute consists of letters. -/
theorem isWord_of_isCaseOf_hrefName {word : List Char} (spelled : IsCaseOf word hrefName) {c : Char}
    (member : c ∈ word) : isWord c = true :=
  spelled.isWord (by decide) member

/-- No character outside of words is in the name of the attribute. -/
theorem not_mem_of_isCaseOf_hrefName {word : List Char} (spelled : IsCaseOf word hrefName) {c : Char}
    (noWord : isWord c = false) : c ∉ word := by
  intro member
  rw [isWord_of_isCaseOf_hrefName spelled member] at noWord
  cases noWord

/-- A single character spells the name of anchors if it is the letter in either case. -/
theorem isCaseOf_singleton_iff (c : Char) : IsCaseOf [c] ['a'] ↔ c = 'a' ∨ c = 'A' := by
  have capital : 65 ≤ 'A'.toNat ∧ 'A'.toNat ≤ 90 := by decide
  have letter : c.toLower = 'a' ↔ c = 'A' ∨ c = 'a' := toLower_eq_iff capital c
  rw [IsCaseOf, List.map_singleton, List.singleton_inj, letter, or_comm]

/-! ## Values -/

/-- The ways in which a value is written. -/
inductive Quoting where
  | double
  | single
  | bare

namespace Quoting

/-- A value as it is written. -/
def write : Quoting → List Char → List Char
  | double, value => '"' :: (value ++ ['"'])
  | single, value => '\'' :: (value ++ ['\''])
  | bare, value => value

/-- The values that can be written in a way. -/
def Admits : Quoting → List Char → Prop
  | double, value => '"' ∉ value
  | single, value => '\'' ∉ value
  | bare, value => value ≠ [] ∧ ∀ c ∈ value, isPlainValueChar c = true

end Quoting

/-- A quoted value is read up to its closing quote. -/
theorem quotedValue?_append {quote : Char} {value : List Char} (free : quote ∉ value)
    (rest : List Char) : quotedValue? quote (value ++ quote :: rest) = some (value, rest) := by
  have kept : ∀ c ∈ value, decide (c ≠ quote) = true := by
    intro c member
    rw [decide_eq_true_eq]
    rintro rfl
    exact free member
  have closes : ∀ c ∈ (quote :: rest).head?, decide (c ≠ quote) = false := by
    rintro c ⟨⟩
    simp
  rw [quotedValue?, dropWhile_stretch kept closes, takeWhile_stretch kept closes]

/-- A written value is read back, where it cannot go on. -/
theorem value?_write {quoting : Quoting} {value rest : List Char} (admits : quoting.Admits value)
    (stops : ∀ c ∈ rest.head?, isPlainValueChar c = false) :
    value? (quoting.write value ++ rest) = some (value, rest) := by
  cases quoting with
  | double =>
    rw [Quoting.write, List.cons_append, List.append_assoc]
    exact quotedValue?_append admits rest
  | single =>
    rw [Quoting.write, List.cons_append, List.append_assoc]
    exact quotedValue?_append admits rest
  | bare =>
    obtain ⟨nonempty, plain⟩ := admits
    -- A bare value does not begin with a quote.
    have noQuote {quote : Char} (closed : isPlainValueChar quote = false) {others : List Char}
        (same : value ++ rest = quote :: others) : False := by
      obtain ⟨first, more, rfl⟩ := List.exists_cons_of_ne_nil nonempty
      have plainFirst := plain first List.mem_cons_self
      rw [(List.cons.inj same).1, closed] at plainFirst
      cases plainFirst
    rw [Quoting.write, value?, takeWhile_stretch plain stops, dropWhile_stretch plain stops, if_neg]
    · rwa [List.isEmpty_iff]
    · exact fun others same => noQuote (by decide) same
    · exact fun others same => noQuote (by decide) same

/-- A written value does not begin with white space. -/
theorem isWhitespace_head_write {quoting : Quoting} {value : List Char}
    (admits : quoting.Admits value) (rest : List Char) :
    ∀ c ∈ (quoting.write value ++ rest).head?, isWhitespace c = false := by
  cases quoting with
  | double =>
    rintro c ⟨⟩
    decide
  | single =>
    rintro c ⟨⟩
    decide
  | bare =>
    obtain ⟨nonempty, plain⟩ := admits
    obtain ⟨first, more, rfl⟩ := List.exists_cons_of_ne_nil nonempty
    rintro c ⟨⟩
    have plainFirst := plain first List.mem_cons_self
    simp only [isPlainValueChar, Bool.and_eq_true, Bool.not_eq_true'] at plainFirst
    exact plainFirst.1.1.1

/-! ## Attributes -/

section Attribute

variable {blanks moreBlanks word text : List Char}

/-- A value is assigned by an equals sign, with any white space around it. -/
theorem assignedValue?_append {quoting : Quoting} {value rest : List Char}
    (blank : ∀ c ∈ blanks, isWhitespace c = true)
    (moreBlank : ∀ c ∈ moreBlanks, isWhitespace c = true) (admits : quoting.Admits value)
    (stops : ∀ c ∈ rest.head?, isPlainValueChar c = false) :
    assignedValue? (blanks ++ '=' :: (moreBlanks ++ (quoting.write value ++ rest))) =
      some (value, rest) := by
  have sign : ∀ c ∈ ('=' :: (moreBlanks ++ (quoting.write value ++ rest))).head?,
      isWhitespace c = false := by
    rintro c ⟨⟩
    decide
  have begins := dropWhile_stretch moreBlank (isWhitespace_head_write admits rest)
  rw [assignedValue?, dropWhile_stretch blank sign]
  change value? ((moreBlanks ++ (quoting.write value ++ rest)).dropWhile isWhitespace) = _
  rw [begins, value?_write admits stops]

/-- Where a value is assigned, nothing but white space stands before the equals sign. -/
theorem exists_of_assignedValue? {found : List Char × List Char}
    (assigned : assignedValue? text = some found) :
    ∃ blanks rest, (∀ c ∈ blanks, isWhitespace c = true) ∧ text = blanks ++ '=' :: rest := by
  unfold assignedValue? at assigned
  split at assigned
  next rest same =>
    refine ⟨text.takeWhile isWhitespace, rest, List.all_eq_true.mp List.all_takeWhile, ?_⟩
    rw [← same, List.takeWhile_append_dropWhile]
  next => cases assigned

/-- The name of the attribute is read in any case of its letters. -/
theorem hrefValue?_append (spelled : IsCaseOf word hrefName) (rest : List Char) :
    hrefValue? (word ++ rest) = assignedValue? rest := by
  obtain ⟨h, r, e, f, rfl⟩ : ∃ h r e f, word = [h, r, e, f] := by
    exact List.length_eq_four.mp spelled.length_eq
  exact if_pos spelled

/-- Where an attribute with a link is read, its name stands before an equals sign, with nothing but white
space in between. -/
theorem exists_of_hrefValue? {found : List Char × List Char} (read : hrefValue? text = some found) :
    ∃ word blanks rest, IsCaseOf word hrefName ∧ (∀ c ∈ blanks, isWhitespace c = true) ∧
      text = word ++ (blanks ++ '=' :: rest) := by
  unfold hrefValue? at read
  split at read
  next h r e f rest =>
    split at read
    next spelled =>
      obtain ⟨blanks, others, blank, rfl⟩ := exists_of_assignedValue? read
      exact ⟨[h, r, e, f], blanks, others, spelled, blank, rfl⟩
    next => cases read
  next => cases read

/-- No attribute begins with a character that is in no word. -/
theorem hrefValue?_cons {c : Char} (noWord : isWord c = false) (rest : List Char) :
    hrefValue? (c :: rest) = none := by
  rw [Option.eq_none_iff_forall_ne_some]
  intro found read
  obtain ⟨word, blanks, others, spelled, -, same⟩ := exists_of_hrefValue? read
  cases word with
  | nil => cases spelled
  | cons first word =>
    rw [List.cons_append, List.cons.injEq] at same
    rw [same.1] at noWord
    exact not_mem_of_isCaseOf_hrefName spelled noWord List.mem_cons_self

end Attribute

/-! ## Anchors -/

section Anchor

variable {previous : Char}

/-- A place is passed that is inside a word, or at which no attribute with a link is read. -/
theorem anchorValue?_cons {c : Char} {rest : List Char} (noEnd : c ≠ '>')
    (passed : isWord previous = true ∨ hrefValue? (c :: rest) = none) :
    anchorValue? previous (c :: rest) = anchorValue? c rest := by
  have nothing : (if isWord previous then none else hrefValue? (c :: rest)) = none := by
    rcases passed with inWord | noValue
    · rw [if_pos inWord]
    · rw [noValue, ite_self]
  rw [anchorValue?, nothing]
  exact if_neg noEnd

/-- A text is passed if all its places are. -/
theorem anchorValue?_append {front rest : List Char} (noEnd : '>' ∉ front)
    (passed : ∀ before behind, front = before ++ behind → behind ≠ [] →
      isWord (before.getLastD previous) = true ∨ hrefValue? (behind ++ rest) = none) :
    anchorValue? previous (front ++ rest) = anchorValue? (front.getLastD previous) rest := by
  induction front generalizing previous with
  | nil => rfl
  | cons c front inductionHypothesis =>
    obtain ⟨different, others⟩ := not_or.mp fun found => noEnd (List.mem_cons.mpr found)
    have here : isWord previous = true ∨ hrefValue? (c :: (front ++ rest)) = none :=
      passed [] (c :: front) rfl (List.cons_ne_nil _ _)
    rw [List.cons_append, anchorValue?_cons (Ne.symm different) here, inductionHypothesis others,
      List.getLastD_cons]
    intro before behind same nonempty
    have there := passed (c :: before) behind (by rw [same, List.cons_append]) nonempty
    rwa [List.getLastD_cons] at there

/-- An attribute with a link is found where a word begins. -/
theorem anchorValue?_of_hrefValue? {text : List Char} {found : List Char × List Char}
    (boundary : isWord previous = false) (read : hrefValue? text = some found) :
    anchorValue? previous text = some found := by
  cases text with
  | nil => cases read
  | cons c rest => rw [anchorValue?, boundary, if_neg Bool.false_ne_true, read]

/-- The search for an attribute with a link ends with the tag. -/
theorem anchorValue?_end (rest : List Char) : anchorValue? previous ('>' :: rest) = none := by
  rw [anchorValue?, hrefValue?_cons (by decide), ite_self]
  exact if_pos rfl

end Anchor

/-! ## Pages -/

/-- A character that begins no anchor is passed. -/
theorem anchorValues_cons {c : Char} (different : c ≠ '<') (rest : List Char) :
    anchorValues (c :: rest) = anchorValues rest := by
  rw [anchorValues]
  intro next others same
  exact absurd same different

/-- A text without less-than signs is passed. -/
theorem anchorValues_append {text : List Char} (free : '<' ∉ text) (rest : List Char) :
    anchorValues (text ++ rest) = anchorValues rest := by
  induction text with
  | nil => rfl
  | cons c text inductionHypothesis =>
    obtain ⟨different, others⟩ := not_or.mp fun found => free (List.mem_cons.mpr found)
    rw [List.cons_append, anchorValues_cons (Ne.symm different), inductionHypothesis others]

/-- The link of an anchor is taken, and the search goes on behind it. -/
theorem anchorValues_of_some {c : Char} {rest value after : List Char}
    (letter : c = 'a' ∨ c = 'A') (wordEnd : atWordEnd rest = true)
    (found : anchorValue? c rest = some (value, after)) :
    anchorValues ('<' :: c :: rest) = value :: anchorValues after := by
  rw [anchorValues, if_pos ⟨letter, wordEnd⟩]
  split
  next value' after' found' =>
    rw [found] at found'
    cases found'
    rfl
  next none =>
    rw [found] at none
    cases none

/-- What is no anchor with a link is passed. -/
theorem anchorValues_of_none {c : Char} {rest : List Char}
    (passed : c = 'a' ∨ c = 'A' → atWordEnd rest = true → anchorValue? c rest = none) :
    anchorValues ('<' :: c :: rest) = anchorValues (c :: rest) := by
  rw [anchorValues]
  split
  next begins =>
    split
    next value after found =>
      rw [passed begins.1 begins.2] at found
      cases found
    next => rfl
  next => rfl

end LinkSieve.Link
