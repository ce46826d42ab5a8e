import Mathlib.Data.List.Find
import Mathlib.Data.List.TakeWhile
import LinkSieve.Proofs.Link.Anchor
/-!
# The links of tags

A page of start tags whose attributes have quoted values, read by names and read by words. By names, the
links are the values of the attributes `href` of the tags `a`. The search reads by words. It takes a tag
for an anchor if the first word of its name is the letter, and an attribute for the one with the link if
the last word of its name is `href`. The two agree on names that are single words. But a hyphen is in no
word, so the search also takes links from an attribute `data-href` and from a tag `a-card`.

It is the equals sign by which the search finds its way. Names and values have none, so each stretch
between two of them ends with the name of an attribute, and nothing else in the stretch can be read as an
attribute with a link.
-/

namespace LinkSieve.Link

open LinkSieve.Unicode LinkSieve.Text

/-! ## Tags -/

/-- A name of a tag or of an attribute: a letter, and then letters, digits and hyphens. -/
structure IsName (name : List Char) : Prop where
  nonempty : name ≠ []
  letter : ∀ c ∈ name.head?, isAlphabetic c = true
  chars : ∀ c ∈ name, isAlphanumeric c = true ∨ c = '-'

instance (name : List Char) : Decidable (IsName name) :=
  decidable_of_iff
    (name ≠ [] ∧ name.head?.all isAlphabetic = true ∧
      (name.all fun c => isAlphanumeric c || c == '-') = true) <| by
    simp only [Option.all_eq_true, List.all_eq_true, Bool.or_eq_true, beq_iff_eq]
    exact ⟨fun ⟨nonempty, letter, chars⟩ => ⟨nonempty, letter, chars⟩,
      fun ⟨nonempty, letter, chars⟩ => ⟨nonempty, letter, chars⟩⟩

/-- The signs by which tags and attributes are written. -/
def signs : List Char := ['"', '<', '>', '=']

/-- An attribute with a value between double quotes. The value has none of the signs by which tags and
attributes are written, while single quotes may stand in it. -/
structure Assignment where
  name : List Char
  isName : IsName name
  value : List Char
  plain : ∀ sign ∈ signs, sign ∉ value

/-- A start tag. -/
structure Tag where
  name : List Char
  isName : IsName name
  attributes : List Assignment

/-- The attribute as it is written, behind a space. -/
def Assignment.text (assignment : Assignment) : List Char :=
  ' ' :: (assignment.name ++ '=' :: (Quoting.double.write assignment.value))

/-- The tag as it is written. -/
def Tag.text (tag : Tag) : List Char :=
  '<' :: (tag.name ++ (tag.attributes.flatMap Assignment.text ++ ['>']))

/-- The first word of a name, if the name begins with a word. -/
def firstWord (name : List Char) : List Char := name.takeWhile isWord

/-- The last word of a name, if the name ends with a word. -/
def lastWord (name : List Char) : List Char := (name.reverse.takeWhile isWord).reverse

/-- The value that is taken from a tag, where a part of its name decides whether it is an anchor, and a
part of their names decides which attribute has the link. -/
def Tag.value? (tagPart attributePart : List Char → List Char) (tag : Tag) : Option (List Char) :=
  if IsCaseOf (tagPart tag.name) ['a'] then
    (tag.attributes.find? fun assignment => IsCaseOf (attributePart assignment.name) hrefName).map
      Assignment.value
  else none

/-- The links that are read from tags: the values that are taken, without white space around them, with
entities decoded, and without those that are empty. -/
def linksOf (tagPart attributePart : List Char → List Char) (tags : List Tag) : List (List Char) :=
  ((tags.filterMap (Tag.value? tagPart attributePart)).map fun value =>
    decodeEntities (trim value)).filter fun link => !link.isEmpty

/-- Whether a tag has a link: it is an anchor, and the link is the value of its attribute `href`. -/
def Tag.HasLink (tag : Tag) (link : List Char) : Prop :=
  IsCaseOf tag.name ['a'] ∧ ∃ assignment ∈ tag.attributes, IsCaseOf assignment.name hrefName ∧
    link = decodeEntities (trim assignment.value) ∧ link ≠ []

/-! ## Words of names -/

namespace IsName

variable {name : List Char}

/-- No sign by which tags and attributes are written is in a name. -/
theorem not_mem (isName : IsName name) (sign : Char)
    (isSign : isAlphanumeric sign = false ∧ sign ≠ '-') : sign ∉ name := by
  intro member
  rcases isName.chars sign member with letter | hyphen
  · rw [isSign.1] at letter
    cases letter
  · exact isSign.2 hyphen

/-- No white space is in a name. -/
theorem isWhitespace_eq_false (isName : IsName name) {c : Char} (member : c ∈ name) :
    isWhitespace c = false := by
  rw [Bool.eq_false_iff]
  intro blank
  refine isName.not_mem c ⟨isAlphanumeric_eq_false_of_isWhitespace blank, ?_⟩ member
  rintro rfl
  cases blank

end IsName

/-- A word at the end of a name, where it begins, is the last word. -/
theorem lastWord_append {front word : List Char} (letters : ∀ c ∈ word, isWord c = true)
    (boundary : ∀ c ∈ front.getLast?, isWord c = false) : lastWord (front ++ word) = word := by
  rw [← List.head?_reverse] at boundary
  have reversed : ∀ c ∈ word.reverse, isWord c = true :=
    fun c member => letters c (List.mem_reverse.mp member)
  rw [lastWord, List.reverse_append, takeWhile_stretch reversed boundary, List.reverse_reverse]

/-- A name ends with its last word, which begins behind a character that is in no word. -/
theorem exists_eq_append_lastWord (name : List Char) :
    ∃ front, name = front ++ lastWord name ∧ ∀ c ∈ front.getLast?, isWord c = false := by
  refine ⟨(name.reverse.dropWhile isWord).reverse, ?_, ?_⟩
  · rw [lastWord, ← List.reverse_append, List.takeWhile_append_dropWhile, List.reverse_reverse]
  · intro c last
    rw [List.getLast?_reverse] at last
    have stops := List.head?_dropWhile_not isWord name.reverse
    rw [Option.mem_def.mp last] at stops
    simpa using stops

/-- A name begins with the letter as a word if it begins with the letter and a word ends there. -/
theorem isCaseOf_firstWord_iff {c : Char} {others behind : List Char}
    (boundary : ∀ c ∈ behind.head?, isWord c = false) :
    IsCaseOf (firstWord (c :: others)) ['a'] ↔
      (c = 'a' ∨ c = 'A') ∧ atWordEnd (others ++ behind) = true := by
  have ends : others.takeWhile isWord = [] ↔ atWordEnd (others ++ behind) = true := by
    cases others with
    | nil =>
      cases behind with
      | nil => exact iff_of_true rfl rfl
      | cons next behind => simp [atWordEnd, boundary next rfl]
    | cons next others => simp [atWordEnd, List.takeWhile_cons]
  rw [← isCaseOf_singleton_iff, ← ends, firstWord, List.takeWhile_cons]
  split
  next => simp [IsCaseOf]
  next noWord =>
    refine iff_of_false nofun ?_
    rintro ⟨letter, -⟩
    exact noWord (letter.isWord (by decide) List.mem_cons_self)

/-! ## The search through a tag -/

section Search

variable {previous : Char} {front stretch rest : List Char}

/-- A stretch without equals signs stands before the next one. -/
theorem before_stretch (free : '=' ∉ stretch) (rest : List Char) :
    before ['='] (stretch ++ rest) = stretch ++ before ['='] rest := by
  apply before_append
  intro c member sign
  exact free (List.mem_singleton.mp sign ▸ member)

/-- Nothing stands before an equals sign at the beginning. -/
theorem before_sign (rest : List Char) : before ['='] ('=' :: rest) = [] :=
  before_eq_nil (by simp)

/-- Where an attribute with a link is read, its name and white space stand before the equals sign. -/
theorem exists_before_of_hrefValue? {text : List Char} {found : List Char × List Char}
    (read : hrefValue? text = some found) :
    ∃ word blanks, IsCaseOf word hrefName ∧ (∀ c ∈ blanks, isWhitespace c = true) ∧
      before ['='] text = word ++ blanks := by
  obtain ⟨word, blanks, others, spelled, blank, rfl⟩ := exists_of_hrefValue? read
  refine ⟨word, blanks, spelled, blank, ?_⟩
  have inWord : '=' ∉ word := not_mem_of_isCaseOf_hrefName spelled (by decide)
  have inBlanks : '=' ∉ blanks := fun member => absurd (blank '=' member) (by decide)
  rw [before_stretch inWord, before_stretch inBlanks, before_sign, List.append_nil]

/-- No attribute with a link is read across a sign that is neither part of a word nor white space. -/
theorem hrefValue?_eq_none_of_sign {sign : Char} (member : sign ∈ stretch) (free : '=' ∉ stretch)
    (noWord : isWord sign = false) (noBlank : isWhitespace sign = false) (rest : List Char) :
    hrefValue? (stretch ++ rest) = none := by
  rw [Option.eq_none_iff_forall_ne_some]
  intro found read
  obtain ⟨word, blanks, spelled, blank, same⟩ := exists_before_of_hrefValue? read
  have within : sign ∈ word ++ blanks := by
    rw [← same, before_stretch free]
    exact List.mem_append_left _ member
  rcases List.mem_append.mp within with inWord | inBlanks
  · exact not_mem_of_isCaseOf_hrefName spelled noWord inWord
  · rw [blank sign inBlanks] at noBlank
    cases noBlank

/-- What is read as an attribute with a link up to an equals sign spells its name, if there is no white
space before the sign. -/
theorem isCaseOf_of_hrefValue? {found : List Char × List Char} {name : List Char} (isName : IsName name)
    (free : '=' ∉ stretch) (read : hrefValue? (stretch ++ '=' :: rest) = some found)
    (ends : stretch.getLast? = name.getLast?) : IsCaseOf stretch hrefName := by
  obtain ⟨word, blanks, spelled, blank, same⟩ := exists_before_of_hrefValue? read
  rw [before_stretch free, before_sign, List.append_nil] at same
  obtain rfl := same
  rcases List.eq_nil_or_concat blanks with rfl | ⟨more, last, rfl⟩
  · rwa [List.append_nil]
  · rw [List.concat_eq_append] at blank ends
    rw [← List.append_assoc, List.getLast?_concat] at ends
    have inName : last ∈ name := List.mem_of_getLast? ends.symm
    have isBlank : isWhitespace last = true := blank last (List.mem_append_right _ List.mem_cons_self)
    rw [isName.isWhitespace_eq_false inName] at isBlank
    cases isBlank

/-- The search gets to the name of an attribute. Whatever else is read on the way would go on across the
space before the name. -/
theorem anchorValue?_name {name : List Char} (isName : IsName name) (noSign : '=' ∉ front)
    (noEnd : '>' ∉ front) (rest : List Char) :
    anchorValue? previous (front ++ ' ' :: (name ++ '=' :: rest)) =
      anchorValue? ' ' (name ++ '=' :: rest) := by
  have lastSpace : (front ++ [' ']).getLastD previous = ' ' := by
    rw [List.getLastD_eq_getLast?, List.getLast?_concat, Option.getD_some]
  rw [List.append_cons, anchorValue?_append, lastSpace]
  · simpa using noEnd
  · intro before behind same nonempty
    right
    rw [Option.eq_none_iff_forall_ne_some]
    intro found read
    have last : ' ' ∈ behind := by
      have ends : (before ++ behind).getLast? = some ' ' := by rw [← same, List.getLast?_concat]
      rw [List.getLast?_append_of_ne_nil _ nonempty] at ends
      exact List.mem_of_getLast? ends
    have free : '=' ∉ behind ++ name := by
      have inFront : '=' ∉ front ++ [' '] := by simpa using noSign
      rw [List.mem_append, not_or]
      constructor
      · exact fun member => inFront (same ▸ List.mem_append_right before member)
      · exact isName.not_mem '=' (by decide)
    have ends : (behind ++ name).getLast? = name.getLast? :=
      List.getLast?_append_of_ne_nil _ isName.nonempty
    rw [← List.append_assoc] at read
    have spelled := isCaseOf_of_hrefValue? isName free read ends
    exact not_mem_of_isCaseOf_hrefName spelled (by decide) (List.mem_append_left _ last)

/-- What is read at a place in the name of an attribute spells the name of the one with the link. -/
theorem isCaseOf_of_hrefValue?_name {name before behind : List Char}
    {found : List Char × List Char} (isName : IsName name) (split : name = before ++ behind)
    (nonempty : behind ≠ []) (read : hrefValue? (behind ++ '=' :: rest) = some found) :
    IsCaseOf behind hrefName := by
  have free : '=' ∉ behind := fun member =>
    isName.not_mem '=' (by decide) (split ▸ List.mem_append_right _ member)
  apply isCaseOf_of_hrefValue? isName free read
  rw [split, List.getLast?_append_of_ne_nil _ nonempty]

variable {assignment : Assignment}

/-- An attribute is taken for the one with the link if the last word of its name is that name. -/
theorem anchorValue?_of_lastWord (spelled : IsCaseOf (lastWord assignment.name) hrefName)
    (noSign : '=' ∉ front) (noEnd : '>' ∉ front)
    (stops : ∀ c ∈ rest.head?, isPlainValueChar c = false) :
    anchorValue? previous (front ++ (assignment.text ++ rest)) = some (assignment.value, rest) := by
  obtain ⟨name, isName, value, plain⟩ := assignment
  obtain ⟨start, split, boundary⟩ := exists_eq_append_lastWord name
  have closing : '>' ∉ start := fun member =>
    isName.not_mem '>' (by decide) (split ▸ List.mem_append_left _ member)
  have admits : Quoting.double.Admits value := plain '"' (by decide)
  simp only [Assignment.text, List.cons_append, List.append_assoc]
  rw [anchorValue?_name isName noSign noEnd]
  dsimp only at spelled
  generalize lastWord name = word at split spelled
  rw [split, List.append_assoc, anchorValue?_append closing]
  · apply anchorValue?_of_hrefValue?
    · rw [List.getLastD_eq_getLast?]
      cases last : start.getLast? with
      | none => decide
      | some c => exact boundary c last
    · have noBlanks : ∀ c ∈ ([] : List Char), isWhitespace c = true := nofun
      rw [hrefValue?_append spelled]
      exact assignedValue?_append noBlanks noBlanks admits stops
  -- What is read before the last word would be longer than the name of the attribute.
  · intro before behind same nonempty
    right
    rw [Option.eq_none_iff_forall_ne_some]
    intro found read
    rw [← List.append_assoc] at read
    have whole : name = before ++ (behind ++ word) := by rw [split, same, List.append_assoc]
    have longer := isCaseOf_of_hrefValue?_name isName whole (by simp [nonempty]) read
    have lengths : (behind ++ word).length = word.length := by
      rw [longer.length_eq, spelled.length_eq]
    exact nonempty (by simpa using lengths)

/-- Any other attribute is passed up to its value. -/
theorem anchorValue?_of_other (other : ¬IsCaseOf (lastWord assignment.name) hrefName)
    (noSign : '=' ∉ front) (noEnd : '>' ∉ front) :
    anchorValue? previous (front ++ (assignment.text ++ rest)) =
      anchorValue? '=' ('"' :: (assignment.value ++ '"' :: rest)) := by
  obtain ⟨name, isName, value, plain⟩ := assignment
  simp only [Assignment.text, Quoting.write, List.cons_append, List.append_assoc, List.nil_append]
  rw [anchorValue?_name isName noSign noEnd, anchorValue?_append, anchorValue?_cons]
  · decide
  · exact Or.inr (hrefValue?_cons (by decide) _)
  · exact isName.not_mem '>' (by decide)
  · intro before behind same nonempty
    cases read : hrefValue? (behind ++ '=' :: '"' :: (value ++ '"' :: rest)) with
    | none => exact Or.inr rfl
    | some found =>
      left
      have spelled := isCaseOf_of_hrefValue?_name isName same nonempty read
      rw [← Bool.not_eq_false]
      intro boundary
      apply other
      rw [List.getLastD_eq_getLast?] at boundary
      dsimp only
      rw [same, lastWord_append fun c => isWord_of_isCaseOf_hrefName spelled]
      · exact spelled
      · intro c last
        rwa [Option.mem_def.mp last, Option.getD_some] at boundary

end Search

/-- An attribute begins no tag. -/
theorem Assignment.not_mem_text (assignment : Assignment) : '<' ∉ assignment.text := by
  have inName : '<' ∉ assignment.name := assignment.isName.not_mem '<' (by decide)
  have inValue : '<' ∉ assignment.value := assignment.plain '<' (by decide)
  simp [Assignment.text, Quoting.write, inName, inValue]

/-- Behind a name or a value, a tag goes on with a space or ends. -/
theorem head_attributes (assignments : List Assignment) (rest : List Char) :
    ∀ c ∈ (assignments.flatMap Assignment.text ++ '>' :: rest).head?, c = ' ' ∨ c = '>' := by
  cases assignments with
  | nil =>
    rintro c ⟨⟩
    exact Or.inr rfl
  | cons assignment assignments =>
    rintro c ⟨⟩
    exact Or.inl rfl

/-- The attributes of a tag begin no other tag. -/
theorem not_mem_attributes (assignments : List Assignment) :
    '<' ∉ assignments.flatMap Assignment.text := by
  intro member
  obtain ⟨assignment, -, inText⟩ := List.mem_flatMap.mp member
  exact assignment.not_mem_text inText

/-- The first attribute whose name ends with the name of the attribute with the link is taken for it. The
induction is on the attributes, where the value of one stands in front of the next. -/
theorem exists_anchorValue?_attributes (assignments : List Assignment) (previous : Char)
    {front : List Char} (noSign : '=' ∉ front) (noEnd : '>' ∉ front) (rest : List Char) :
    ∃ after, '<' ∉ after ∧
      anchorValue? previous (front ++ (assignments.flatMap Assignment.text ++ '>' :: rest)) =
        (assignments.find? fun assignment => IsCaseOf (lastWord assignment.name) hrefName).map
          fun assignment => (assignment.value, after ++ rest) := by
  induction assignments generalizing previous front with
  | nil =>
    refine ⟨[], List.not_mem_nil, ?_⟩
    rw [List.flatMap_nil, List.nil_append, anchorValue?_append noEnd, anchorValue?_end,
      List.find?_nil, Option.map_none]
    intro before behind same nonempty
    right
    have free : '=' ∉ behind ++ ['>'] := by
      intro member
      apply noSign
      rw [same]
      apply List.mem_append_right
      simpa using member
    rw [List.append_cons]
    have closing : '>' ∈ behind ++ ['>'] := List.mem_append_right _ List.mem_cons_self
    exact hrefValue?_eq_none_of_sign closing free (by decide) (by decide) rest
  | cons assignment assignments inductionHypothesis =>
    rw [List.flatMap_cons, List.append_assoc]
    by_cases spelled : IsCaseOf (lastWord assignment.name) hrefName
    · refine ⟨assignments.flatMap Assignment.text ++ ['>'], ?_, ?_⟩
      · simpa using not_mem_attributes assignments
      · rw [anchorValue?_of_lastWord spelled noSign noEnd,
          List.find?_cons_of_pos (by simpa using spelled), Option.map_some, List.append_assoc,
          List.singleton_append]
        intro c head
        rcases head_attributes assignments rest c head with rfl | rfl <;> decide
    · rw [anchorValue?_of_other spelled noSign noEnd, List.find?_cons_of_neg (by simpa using spelled)]
      have free {sign : Char} (isSign : sign ∈ ['<', '>', '=']) :
          sign ∉ '"' :: (assignment.value ++ ['"']) := by
        have inValue : sign ∉ assignment.value :=
          assignment.plain sign (List.mem_cons_of_mem _ isSign)
        have different : sign ≠ '"' := by
          rintro rfl
          exact absurd isSign (by decide)
        simp [inValue, different]
      obtain ⟨after, noTag, later⟩ :=
        inductionHypothesis '=' (free (by decide)) (free (by decide))
      refine ⟨after, noTag, ?_⟩
      rw [← later, List.cons_append, List.append_assoc, List.singleton_append]

/-! ## Pages of tags -/

/-- The value that is taken from a tag is the one that is read by words. -/
theorem anchorValues_tag (tag : Tag) (rest : List Char) :
    anchorValues (tag.text ++ rest) = (tag.value? firstWord lastWord).toList ++ anchorValues rest := by
  obtain ⟨name, isName, assignments⟩ := tag
  obtain ⟨c, others, rfl⟩ := List.exists_cons_of_ne_nil isName.nonempty
  have inName {sign : Char} (absent : sign ∉ c :: others) : sign ∉ others :=
    fun member => absent (List.mem_cons_of_mem c member)
  have noSign : '=' ∉ others := inName (isName.not_mem '=' (by decide))
  have noEnd : '>' ∉ others := inName (isName.not_mem '>' (by decide))
  have noTag : '<' ∉ c :: others := isName.not_mem '<' (by decide)
  have written : Tag.text ⟨c :: others, isName, assignments⟩ ++ rest =
      '<' :: c :: (others ++ (assignments.flatMap Assignment.text ++ '>' :: rest)) := by
    simp [Tag.text]
  -- Behind its less-than sign the whole tag is passed, if nothing is taken from it.
  have passed : anchorValues (c :: (others ++ (assignments.flatMap Assignment.text ++ '>' :: rest))) =
      anchorValues rest := by
    rw [← List.cons_append, anchorValues_append noTag,
      anchorValues_append (not_mem_attributes assignments), anchorValues_cons (by decide)]
  have boundary : ∀ d ∈ (assignments.flatMap Assignment.text ++ '>' :: rest).head?,
      isWord d = false := by
    intro d head
    rcases head_attributes assignments rest d head with rfl | rfl <;> decide
  have anchor : IsCaseOf (firstWord (c :: others)) ['a'] ↔ (c = 'a' ∨ c = 'A') ∧ _ :=
    isCaseOf_firstWord_iff boundary
  obtain ⟨after, noTagAfter, taken⟩ :=
    exists_anchorValue?_attributes assignments c noSign noEnd rest
  rw [written, Tag.value?]
  split
  next begins =>
    obtain ⟨letter, wordEnd⟩ := anchor.mp begins
    cases first : assignments.find? fun assignment => IsCaseOf (lastWord assignment.name) hrefName with
    | none =>
      rw [first, Option.map_none] at taken
      rw [anchorValues_of_none fun _ _ => taken, passed, Option.map_none]
      rfl
    | some assignment =>
      rw [first, Option.map_some] at taken
      rw [anchorValues_of_some letter wordEnd taken, anchorValues_append noTagAfter, Option.map_some]
      rfl
  next noAnchor =>
    rw [anchorValues_of_none, passed]
    · rfl
    · exact fun letter wordEnd => absurd (anchor.mpr ⟨letter, wordEnd⟩) noAnchor

/-- The links of a page of tags are read by words. -/
theorem extract_flatMap_tag (tags : List Tag) :
    extract (tags.flatMap Tag.text) = linksOf firstWord lastWord tags := by
  have values : anchorValues (tags.flatMap Tag.text) =
      tags.filterMap (Tag.value? firstWord lastWord) := by
    induction tags with
    | nil => rw [List.flatMap_nil, anchorValues, List.filterMap_nil]
    | cons tag tags inductionHypothesis =>
      rw [List.flatMap_cons, anchorValues_tag, inductionHypothesis, List.filterMap_cons]
      cases tag.value? firstWord lastWord <;> rfl
  rw [extract, values, linksOf]

namespace Tag

/-- The names of a tag do not have one of the two names as a part only: the name of the tag at its
beginning, or the name of an attribute at its end. -/
structure HasWholeNames (tag : Tag) : Prop where
  tagName : IsCaseOf (firstWord tag.name) ['a'] → IsCaseOf tag.name ['a']
  attributeName : ∀ assignment ∈ tag.attributes,
    IsCaseOf (lastWord assignment.name) hrefName → IsCaseOf assignment.name hrefName

/-- Such a tag is read by words as it is read by names. -/
theorem HasWholeNames.value?_eq {tag : Tag} (whole : tag.HasWholeNames) :
    tag.value? firstWord lastWord = tag.value? id id := by
  have sameTag : IsCaseOf (firstWord tag.name) ['a'] ↔ IsCaseOf tag.name ['a'] := by
    refine ⟨whole.tagName, fun spelled => ?_⟩
    have letters : ∀ c ∈ tag.name, isWord c = true := fun c => spelled.isWord (by decide)
    rwa [firstWord, List.takeWhile_eq_self_iff.mpr letters]
  have sameAttribute : ∀ assignment ∈ tag.attributes,
      decide (IsCaseOf (lastWord assignment.name) hrefName) =
        decide (IsCaseOf assignment.name hrefName) := by
    intro assignment member
    rw [decide_eq_decide]
    refine ⟨whole.attributeName assignment member, fun spelled => ?_⟩
    have letters : ∀ c ∈ assignment.name, isWord c = true :=
      fun c => isWord_of_isCaseOf_hrefName spelled
    have last : lastWord ([] ++ assignment.name) = assignment.name :=
      lastWord_append letters (by simp)
    rw [List.nil_append] at last
    rwa [last]
  simp only [Tag.value?, sameTag, id_eq]
  rw [List.find?_congr sameAttribute]

end Tag

/-- By names, only links of tags are read. -/
theorem exists_hasLink_of_mem_linksOf {tags : List Tag} {link : List Char}
    (member : link ∈ linksOf id id tags) : ∃ tag ∈ tags, tag.HasLink link := by
  rw [linksOf, List.mem_filter, List.mem_map] at member
  obtain ⟨⟨value, taken, rfl⟩, nonempty⟩ := member
  obtain ⟨tag, inTags, read⟩ := List.mem_filterMap.mp taken
  rw [Tag.value?] at read
  split at read
  next isAnchor =>
    obtain ⟨assignment, found, rfl⟩ := Option.map_eq_some_iff.mp read
    have isHref := List.find?_some found
    refine ⟨tag, inTags, isAnchor, assignment, List.mem_of_find?_eq_some found, ?_, rfl, ?_⟩
    · simpa using isHref
    · simpa using nonempty
  next => cases read

/-- The links of a page of tags are those of the anchors and the attributes that have the two names as
the first and the last word of theirs. Where no name has one of the two as a part only, these are the
links that are read by names, and so they are values of the attributes `href` of the tags `a`. -/
theorem extract_reads_words (tags : List Tag) :
    extract (tags.flatMap Tag.text) = linksOf firstWord lastWord tags ∧
      ((∀ tag ∈ tags, tag.HasWholeNames) →
        extract (tags.flatMap Tag.text) = linksOf id id tags ∧
          ∀ link ∈ extract (tags.flatMap Tag.text), ∃ tag ∈ tags, tag.HasLink link) := by
  refine ⟨extract_flatMap_tag tags, fun whole => ?_⟩
  have values : tags.filterMap (Tag.value? firstWord lastWord) =
      tags.filterMap (Tag.value? id id) :=
    List.filterMap_congr fun tag member => (whole tag member).value?_eq
  have byNames : extract (tags.flatMap Tag.text) = linksOf id id tags := by
    rw [extract_flatMap_tag, linksOf, values, linksOf]
  refine ⟨byNames, fun link member => ?_⟩
  rw [byNames] at member
  exact exists_hasLink_of_mem_linksOf member

/-- An anchor with two attributes, and two other tags whose names begin with its letter. -/
def wholeTags : List Tag :=
  let wide : Assignment :=
    { name := "data-ref".toList, isName := by decide, value := "wide".toList,
      plain := List.forall_iff_forall_mem.mp ⟨by decide, by decide, by decide, by decide⟩ }
  let report : Assignment :=
    { name := "HREF".toList, isName := by decide, value := " report.pdf ".toList,
      plain := List.forall_iff_forall_mem.mp ⟨by decide, by decide, by decide, by decide⟩ }
  [⟨"abbr".toList, by decide, [report]⟩, ⟨"a".toList, by decide, [wide, report]⟩,
    ⟨"article-card".toList, by decide, [report]⟩]

/-- Only the link of the anchor is extracted. -/
theorem extract_wholeTags :
    (wholeTags.flatMap Tag.text) =
        ("<abbr HREF=\" report.pdf \"><a data-ref=\"wide\" HREF=\" report.pdf \">" ++
          "<article-card HREF=\" report.pdf \">").toList ∧
      (∀ tag ∈ wholeTags, tag.HasWholeNames) ∧
      extract (wholeTags.flatMap Tag.text) = ["report.pdf".toList] ∧
      ∀ link ∈ extract (wholeTags.flatMap Tag.text), ∃ tag ∈ wholeTags, tag.HasLink link := by
  have whole : ∀ tag ∈ wholeTags, tag.HasWholeNames := by
    rw [← List.forall_iff_forall_mem]
    exact ⟨⟨by decide, by decide⟩, ⟨by decide, by decide⟩, ⟨by decide, by decide⟩⟩
  obtain ⟨-, reads⟩ := extract_reads_words wholeTags
  obtain ⟨byNames, haveLinks⟩ := reads whole
  exact ⟨by decide +kernel, whole, byNames.trans (by decide +kernel), haveLinks⟩

/-- An anchor with another attribute whose name ends in the one with the link, and a tag with another name
that begins with the letter. -/
def compoundTags : List Tag :=
  let preview : Assignment :=
    { name := "data-href".toList, isName := by decide, value := "preview.pdf".toList,
      plain := List.forall_iff_forall_mem.mp ⟨by decide, by decide, by decide, by decide⟩ }
  let card : Assignment :=
    { name := "href".toList, isName := by decide, value := "card.pdf".toList,
      plain := List.forall_iff_forall_mem.mp ⟨by decide, by decide, by decide, by decide⟩ }
  [⟨"a".toList, by decide, [preview]⟩, ⟨"a-card".toList, by decide, [card]⟩]

/-- Links are extracted from both of these tags, although neither has one. -/
theorem extract_compoundTags :
    (compoundTags.flatMap Tag.text) =
        "<a data-href=\"preview.pdf\"><a-card href=\"card.pdf\">".toList ∧
      (∀ tag ∈ compoundTags, (tag.attributes.map Assignment.name).Nodup) ∧
      extract (compoundTags.flatMap Tag.text) = ["preview.pdf".toList, "card.pdf".toList] ∧
      ∀ tag ∈ compoundTags, ∀ link, ¬tag.HasLink link := by
  refine ⟨by decide +kernel, ?_, ?_, ?_⟩
  · simp [compoundTags]
  · rw [extract_flatMap_tag]
    decide +kernel
  · rw [← List.forall_iff_forall_mem]
    constructor
    · rintro link ⟨-, assignment, member, isHref, -⟩
      obtain rfl := List.mem_singleton.mp member
      exact absurd isHref (by decide)
    · rintro link ⟨isAnchor, -⟩
      exact absurd isAnchor (by decide)

end LinkSieve.Link
