import Mathlib.Data.List.Infix
import LinkSieve.Proofs.Link.Anchor
import LinkSieve.Proofs.Link.Entity
/-!
# The links of written anchors

There are many ways to write an anchor with a link: in small or capital letters, with other attributes
before the link, with white space around the equals sign, and with the link between quotes of either
kind or without any. Whatever the way, the search stops at the link, takes it as it was written, and
goes on behind it without missing the next anchor. So the links of a page of anchors are those that were
written, in their order.

Other attributes are any text that neither ends the tag nor contains the name of the attribute with the
link. That attribute has white space before it, so that its name begins a word.
-/

namespace LinkSieve.Link

open LinkSieve.Unicode LinkSieve.Text

/-- White space, or nothing. -/
def Blanks : Type := { text : List Char // text.all isWhitespace = true }

/-- An anchor with a link, in one of the ways in which it can be written. -/
structure WrittenAnchor where
  /-- The name of the tag. -/
  letter : Char
  isLetter : IsCaseOf [letter] ['a']
  gap : Blanks
  gapNonempty : gap.val ≠ []
  /-- What stands before the attribute with the link, with white space at its end. -/
  others : List Char
  noEnd : '>' ∉ others
  noHref : ¬hrefName <:+: others.map Char.toLower
  blankEnd : ∀ c ∈ others.getLast?, isWhitespace c = true
  /-- The name of the attribute with the link. -/
  name : List Char
  isHref : IsCaseOf name hrefName
  beforeSign : Blanks
  afterSign : Blanks
  quoting : Quoting
  link : List Char
  bareLink : quoting = .bare → ∀ c ∈ link, isWhitespace c = false
  /-- What stands between the tags of the anchor. -/
  content : List Char
  noTag : '<' ∉ content

/-- The anchor as it stands in a page. -/
def WrittenAnchor.text (anchor : WrittenAnchor) : List Char :=
  '<' :: anchor.letter :: (anchor.gap.val ++ (anchor.others ++ (anchor.name ++
    (anchor.beforeSign.val ++ '=' :: (anchor.afterSign.val ++
      (anchor.quoting.write (escapeText anchor.link) ++ '>' :: (anchor.content ++ "</a>".toList)))))))

/-- A link that is not empty and has no white space around it. -/
structure IsTrimmed (link : List Char) : Prop where
  nonempty : link ≠ []
  first : ∀ c ∈ link.head?, isWhitespace c = false
  last : ∀ c ∈ link.getLast?, isWhitespace c = false

/-! ## Escaped links -/

/-- A character is written by characters that can be in a value without quotes, unless it is white
space itself. -/
theorem mem_escapeChar {c d : Char} (member : d ∈ escapeChar c) :
    isPlainValueChar d = true ∨ d = c ∧ isWhitespace c = true := by
  unfold escapeChar at member
  split at member
  case h_6 noAmpersand noLess noGreater noQuote noApostrophe =>
    obtain rfl := List.mem_singleton.mp member
    cases blank : isWhitespace d with
    | true => exact Or.inr ⟨rfl, rfl⟩
    | false =>
      left
      have noGreater : d ≠ '>' := noGreater
      have noQuote : d ≠ '"' := noQuote
      have noApostrophe : d ≠ '\'' := noApostrophe
      simp [isPlainValueChar, blank, noGreater, noQuote, noApostrophe]
  all_goals
    left
    revert d
    rw [← List.all_eq_true]
    decide

/-- An escaped link has no characters but those of values without quotes, and the white space of the
link. -/
theorem mem_escapeText {link : List Char} {d : Char} (member : d ∈ escapeText link) :
    isPlainValueChar d = true ∨ d ∈ link ∧ isWhitespace d = true := by
  obtain ⟨c, inLink, ofChar⟩ := List.mem_flatMap.mp member
  rcases mem_escapeChar ofChar with plain | ⟨rfl, blank⟩
  · exact Or.inl plain
  · exact Or.inr ⟨inLink, blank⟩

/-- Something is written for each character. -/
theorem escapeChar_ne_nil (c : Char) : escapeChar c ≠ [] := by
  unfold escapeChar
  split <;> exact List.cons_ne_nil _ _

/-- No white space is written for another character. -/
theorem isWhitespace_of_mem_escapeChar {c d : Char} (noBlank : isWhitespace c = false)
    (member : d ∈ escapeChar c) : isWhitespace d = false := by
  rcases mem_escapeChar member with plain | ⟨-, blank⟩
  · simp only [isPlainValueChar, Bool.and_eq_true, Bool.not_eq_true'] at plain
    exact plain.1.1.1
  · rw [noBlank] at blank
    cases blank

/-- An escaped link can be written in the way that the link allows. -/
theorem admits_escapeText {quoting : Quoting} {link : List Char} (nonempty : link ≠ [])
    (bare : quoting = .bare → ∀ c ∈ link, isWhitespace c = false) :
    quoting.Admits (escapeText link) := by
  have free {quote : Char} (closed : isPlainValueChar quote = false)
      (noBlank : isWhitespace quote = false) : quote ∉ escapeText link := by
    intro member
    rcases mem_escapeText member with plain | ⟨-, blank⟩
    · rw [closed] at plain
      cases plain
    · rw [noBlank] at blank
      cases blank
  cases quoting with
  | double => exact free (by decide) (by decide)
  | single => exact free (by decide) (by decide)
  | bare =>
    constructor
    · obtain ⟨first, rest, rfl⟩ := List.exists_cons_of_ne_nil nonempty
      rw [escapeText, List.flatMap_cons]
      exact List.append_ne_nil_of_left_ne_nil (escapeChar_ne_nil first) _
    · intro c member
      rcases mem_escapeText member with plain | ⟨inLink, blank⟩
      · exact plain
      · rw [bare rfl c inLink] at blank
        cases blank

/-- An escaped link has no white space around it either. -/
theorem trim_escapeText {link : List Char} (trimmed : IsTrimmed link) :
    trim (escapeText link) = escapeText link := by
  apply trim_eq_self
  · intro c head
    obtain ⟨first, rest, rfl⟩ := List.exists_cons_of_ne_nil trimmed.nonempty
    rw [escapeText, List.flatMap_cons, List.head?_append_of_ne_nil _ (escapeChar_ne_nil first)] at head
    exact isWhitespace_of_mem_escapeChar (trimmed.first first rfl) (List.mem_of_mem_head? head)
  · intro c last
    obtain ⟨rest, final, rfl⟩ := (List.eq_nil_or_concat link).resolve_left trimmed.nonempty
    rw [List.concat_eq_append] at trimmed last
    rw [escapeText, List.flatMap_append, List.flatMap_singleton,
      List.getLast?_append_of_ne_nil _ (escapeChar_ne_nil final)] at last
    have noBlank : isWhitespace final = false := trimmed.last final List.getLast?_concat
    exact isWhitespace_of_mem_escapeChar noBlank (List.mem_of_getLast? last)

/-! ## The search through written anchors -/

section Passing

variable {previous : Char} {text rest : List Char}

/-- A place is behind white space if the text before it ends with white space, or if this text is empty
and begins behind white space. -/
theorem isWhitespace_getLastD (ends : ∀ c ∈ text.getLast?, isWhitespace c = true)
    (start : text = [] → isWhitespace previous = true) :
    isWhitespace (text.getLastD previous) = true := by
  rw [List.getLastD_eq_getLast?]
  cases last : text.getLast? with
  | none => exact start (List.getLast?_eq_none_iff.mp last)
  | some c => exact ends c last

/-- White space in a tag is passed. -/
theorem anchorValue?_blanks (blank : ∀ c ∈ text, isWhitespace c = true) :
    anchorValue? previous (text ++ rest) = anchorValue? (text.getLastD previous) rest := by
  apply anchorValue?_append
  · intro member
    exact absurd (blank '>' member) (by decide)
  · rintro before (_ | ⟨c, behind⟩) rfl nonempty
    · exact absurd rfl nonempty
    · have here : isWhitespace c = true :=
        blank c (List.mem_append_right _ List.mem_cons_self)
      exact Or.inr (hrefValue?_cons (isWord_eq_false_of_isWhitespace here) _)

/-- Other attributes are passed. The name of the attribute with the link does not stand in them, and it
cannot begin in them and end behind them, since there is white space at their end. -/
theorem anchorValue?_others (noEnd : '>' ∉ text) (noHref : ¬hrefName <:+: text.map Char.toLower)
    (blankEnd : ∀ c ∈ text.getLast?, isWhitespace c = true) :
    anchorValue? previous (text ++ rest) = anchorValue? (text.getLastD previous) rest := by
  apply anchorValue?_append noEnd
  rintro before behind rfl nonempty
  right
  rw [Option.eq_none_iff_forall_ne_some]
  intro found read
  obtain ⟨word, blanks, others, spelled, -, same⟩ := exists_of_hrefValue? read
  rcases List.append_eq_append_iff.mp same with ⟨more, wordSplit, -⟩ | ⟨more, behindSplit, -⟩
  · have last : behind.getLast nonempty ∈ word := by
      rw [wordSplit]
      exact List.mem_append_left _ (List.getLast_mem nonempty)
    have blank : isWhitespace (behind.getLast nonempty) = true := by
      apply blankEnd
      rw [List.getLast?_append_of_ne_nil _ nonempty]
      exact List.getLast_mem_getLast? nonempty
    exact not_mem_of_isCaseOf_hrefName spelled (isWord_eq_false_of_isWhitespace blank) last
  · apply noHref
    have within : word <:+: before ++ behind := ⟨before, more, by rw [behindSplit, List.append_assoc]⟩
    have small := within.map Char.toLower
    rwa [spelled] at small

end Passing

/-- The link of a written anchor is taken as it was written, and the search goes on behind the anchor. -/
theorem anchorValues_writtenAnchor (anchor : WrittenAnchor) (nonempty : anchor.link ≠ []) (rest : List Char) :
    anchorValues (anchor.text ++ rest) = escapeText anchor.link :: anchorValues rest := by
  obtain ⟨letter, isLetter, ⟨gap, gapBlank⟩, gapNonempty, others, noEnd, noHref, blankEnd, name,
    isHref, ⟨beforeSign, beforeBlank⟩, ⟨afterSign, afterBlank⟩, quoting, link, bareLink, content,
    noTag⟩ := anchor
  have admits : quoting.Admits (escapeText link) := admits_escapeText nonempty bareLink
  rw [List.all_eq_true] at gapBlank beforeBlank afterBlank
  simp only [WrittenAnchor.text, List.cons_append, List.append_assoc]
  have wordEnd : ∀ behind, atWordEnd (gap ++ behind) = true := by
    obtain ⟨first, more, rfl⟩ := List.exists_cons_of_ne_nil gapNonempty
    intro behind
    rw [List.cons_append, atWordEnd,
      isWord_eq_false_of_isWhitespace (gapBlank first List.mem_cons_self), Bool.not_false]
  -- White space stands before the attribute with the link, from the gap or from other attributes.
  have boundary : isWord (others.getLastD (gap.getLastD letter)) = false := by
    apply isWord_eq_false_of_isWhitespace
    apply isWhitespace_getLastD blankEnd
    intro
    apply isWhitespace_getLastD
    · exact fun c last => gapBlank c (List.mem_of_getLast? last)
    · exact fun empty => absurd empty gapNonempty
  have stops : ∀ c ∈ ('>' :: (content ++ ("</a>".toList ++ rest))).head?,
      isPlainValueChar c = false := by
    rintro c ⟨⟩
    decide
  have found : anchorValue? letter (gap ++ (others ++ (name ++ (beforeSign ++ '=' :: (afterSign ++
      (quoting.write (escapeText link) ++ '>' :: (content ++ ("</a>".toList ++ rest)))))))) =
      some (escapeText link, '>' :: (content ++ ("</a>".toList ++ rest))) := by
    rw [anchorValue?_blanks gapBlank, anchorValue?_others noEnd noHref blankEnd]
    apply anchorValue?_of_hrefValue? boundary
    rw [hrefValue?_append isHref, assignedValue?_append beforeBlank afterBlank admits stops]
  rw [anchorValues_of_some ((isCaseOf_singleton_iff letter).mp isLetter) (wordEnd _) found,
    anchorValues_cons (by decide), anchorValues_append noTag]
  have closing : anchorValues ("</a>".toList ++ rest) = anchorValues rest := by
    change anchorValues ('<' :: '/' :: ("a>".toList ++ rest)) = anchorValues rest
    rw [anchorValues_of_none, anchorValues_cons (by decide), anchorValues_append (by decide)]
    rintro (slash | slash) <;> cases slash
  rw [closing]

/-- The links of a page of written anchors are the links that were written, in their order. -/
theorem extract_writtenAnchors (anchors : List WrittenAnchor)
    (trimmed : ∀ anchor ∈ anchors, IsTrimmed anchor.link) :
    extract (anchors.flatMap WrittenAnchor.text) = anchors.map WrittenAnchor.link := by
  have values : anchorValues (anchors.flatMap WrittenAnchor.text) =
      anchors.map fun anchor => escapeText anchor.link := by
    induction anchors with
    | nil => rw [List.flatMap_nil, anchorValues, List.map_nil]
    | cons anchor anchors inductionHypothesis =>
      obtain ⟨first, others⟩ := List.forall_mem_cons.mp trimmed
      rw [List.flatMap_cons, anchorValues_writtenAnchor anchor first.nonempty, inductionHypothesis others,
        List.map_cons]
  have decoded : (anchors.map fun anchor => decodeEntities (trim (escapeText anchor.link))) =
      anchors.map WrittenAnchor.link := by
    apply List.map_congr_left
    intro anchor member
    rw [trim_escapeText (trimmed anchor member), decodeEntities_escapeText]
  rw [extract, values, List.map_map]
  change List.filter _ (anchors.map fun anchor => decodeEntities (trim (escapeText anchor.link))) = _
  rw [decoded, List.filter_eq_self]
  intro link member
  obtain ⟨anchor, inPage, rfl⟩ := List.mem_map.mp member
  simpa using (trimmed anchor inPage).nonempty

/-- Three anchors with their links in the three ways of quoting. The first one has another attribute, and
all five characters are escaped in its link. -/
def writtenPage : List WrittenAnchor :=
  let noBlanks : Blanks := ⟨[], by decide⟩
  let space : Blanks := ⟨[' '], by decide⟩
  let first : WrittenAnchor :=
    { letter := 'A', isLetter := by decide, gap := space, gapNonempty := List.cons_ne_nil _ _,
      others := "class=\"x\"\t".toList, noEnd := by decide, noHref := by decide +kernel,
      blankEnd := by rintro c ⟨⟩; decide,
      name := "HREF".toList, isHref := by decide, beforeSign := noBlanks, afterSign := noBlanks,
      quoting := .single, link := "R&D \"<it's>\".pdf".toList, bareLink := by simp,
      content := "One".toList, noTag := by decide }
  let second : WrittenAnchor :=
    { letter := 'a', isLetter := by decide, gap := space, gapNonempty := List.cons_ne_nil _ _,
      others := [], noEnd := by decide, noHref := by decide +kernel, blankEnd := by simp,
      name := "href".toList, isHref := by decide, beforeSign := space, afterSign := space,
      quoting := .double, link := "/two?x=1&y=2".toList, bareLink := by simp,
      content := "Two".toList, noTag := by decide }
  let third : WrittenAnchor :=
    { letter := 'a', isLetter := by decide, gap := space, gapNonempty := List.cons_ne_nil _ _,
      others := [], noEnd := by decide, noHref := by decide +kernel, blankEnd := by simp,
      name := "href".toList, isHref := by decide, beforeSign := noBlanks, afterSign := noBlanks,
      quoting := .bare, link := "three.jpg".toList,
      bareLink := fun _ c member => by
        have noBlank : "three.jpg".toList.all fun c => !isWhitespace c := by decide
        simpa using List.all_eq_true.mp noBlank c member,
      content := [], noTag := by decide }
  [first, second, third]

/-- The links of these three anchors are extracted. -/
theorem extract_writtenAnchors_quoted :
    writtenPage.flatMap WrittenAnchor.text =
        ("<A class=\"x\"\tHREF='R&amp;D &quot;&lt;it&#39;s&gt;&quot;.pdf'>One</a>" ++
          "<a href = \"/two?x=1&amp;y=2\">Two</a><a href=three.jpg></a>").toList ∧
      (∀ anchor ∈ writtenPage, IsTrimmed anchor.link) ∧
      extract (writtenPage.flatMap WrittenAnchor.text) =
        ["R&D \"<it's>\".pdf".toList, "/two?x=1&y=2".toList, "three.jpg".toList] := by
  have trimmed : ∀ anchor ∈ writtenPage, IsTrimmed anchor.link := by
    rw [← List.forall_iff_forall_mem]
    refine ⟨?_, ?_, ?_⟩ <;>
      exact ⟨List.cons_ne_nil _ _, by rintro c ⟨⟩; decide, by rintro c ⟨⟩; decide⟩
  exact ⟨by decide +kernel, trimmed, extract_writtenAnchors writtenPage trimmed⟩

end LinkSieve.Link
