/-!
# Cutting texts

Cuts of a list of characters at a separator. All of them keep every character that is not part of a
separator, and an empty part counts as a part.
-/

namespace LinkSieve.Text

/-- Cuts at the first occurrence of a separator and drops it. -/
def cutAt? (separator : List Char) : List Char → Option (List Char × List Char)
  | [] => none
  | c :: rest =>
    if separator.isPrefixOf (c :: rest) then some ([], (c :: rest).drop separator.length)
    else (cutAt? separator rest).map fun (before, after) => (c :: before, after)

/-- The parts between the occurrences of a character. -/
def splitAt (separator : Char) : List Char → List (List Char)
  | [] => [[]]
  | c :: rest =>
    if c = separator then [] :: splitAt separator rest
    else
      match splitAt separator rest with
      | [] => [[c]]
      | part :: parts => (c :: part) :: parts

/-- What stands before the first of some characters. -/
def before (stops : List Char) (text : List Char) : List Char :=
  text.takeWhile fun c => !stops.contains c

/-- What stands from the first of some characters on. -/
def onward (stops : List Char) (text : List Char) : List Char :=
  text.dropWhile fun c => !stops.contains c

/-- What stands after the last occurrence of a character, or all if there is none. -/
def afterLast (separator : Char) (text : List Char) : List Char :=
  (text.reverse.takeWhile (· ≠ separator)).reverse

/-- What stands up to and including the last occurrence of a character. -/
def throughLast (separator : Char) (text : List Char) : List Char :=
  (text.reverse.dropWhile (· ≠ separator)).reverse

/-- Replaces the occurrences of a text, found from left to right without overlap. -/
def replaceAll (old new : List Char) : List Char → List Char
  | [] => []
  | c :: rest =>
    if old.isPrefixOf (c :: rest) then new ++ replaceAll old new (rest.drop (old.length - 1))
    else c :: replaceAll old new rest
termination_by text => text.length

section Stretch

variable {p : Char → Bool} {front rest : List Char}

/-- A stretch of characters is taken up to where it cannot go on. -/
theorem takeWhile_stretch (kept : ∀ c ∈ front, p c = true) (stops : ∀ c ∈ rest.head?, p c = false) :
    (front ++ rest).takeWhile p = front := by
  rw [List.takeWhile_append_of_pos kept]
  cases rest with
  | nil => rw [List.takeWhile_nil, List.append_nil]
  | cons c rest => rw [List.takeWhile_cons_of_neg (by simp [stops c rfl]), List.append_nil]

/-- What is left of a stretch of characters begins where the stretch cannot go on. -/
theorem dropWhile_stretch (kept : ∀ c ∈ front, p c = true) (stops : ∀ c ∈ rest.head?, p c = false) :
    (front ++ rest).dropWhile p = rest := by
  rw [List.dropWhile_append_of_pos kept]
  cases rest with
  | nil => rfl
  | cons c rest => rw [List.dropWhile_cons_of_neg (by simp [stops c rfl])]

end Stretch

/-- The two parts of a cut are a text with nothing between them. -/
theorem before_append_onward (stops text : List Char) :
    before stops text ++ onward stops text = text :=
  List.takeWhile_append_dropWhile

/-- A text without the characters is cut at its end. -/
theorem before_of_free {stops text : List Char} (free : ∀ c ∈ text, c ∉ stops) :
    before stops text = text := by
  induction text with
  | nil => rfl
  | cons c rest inductionHypothesis =>
    obtain ⟨kept, others⟩ := List.forall_mem_cons.mp free
    rw [before, List.takeWhile_cons_of_pos (by simpa using kept)]
    exact congrArg (c :: ·) (inductionHypothesis others)

/-- Nothing stands from the first of the characters on if there is none. -/
theorem onward_of_free {stops text : List Char} (free : ∀ c ∈ text, c ∉ stops) :
    onward stops text = [] := by
  have whole := before_append_onward stops text
  rw [before_of_free free] at whole
  exact List.append_right_eq_self.mp whole

section Stops

variable {stops text : List Char}

/-- None of the characters stands before the first of them. -/
theorem not_mem_of_mem_before {c : Char} (member : c ∈ before stops text) : c ∉ stops := by
  have kept := List.all_eq_true.mp List.all_takeWhile c member
  simpa using kept

/-- What stands from the first of the characters on begins with it. -/
theorem mem_of_mem_head?_onward {c : Char} (head : c ∈ (onward stops text).head?) :
    c ∈ stops := by
  have first := List.head?_dropWhile_not (fun c => !stops.contains c) text
  rw [onward] at head
  rw [Option.mem_def.mp head] at first
  simpa using first

/-- What stands before the first of the characters begins as the text does, if there is anything. -/
theorem mem_head?_of_mem_head?_before {c : Char} (head : c ∈ (before stops text).head?) :
    c ∈ text.head? := by
  cases text with
  | nil => exact head
  | cons first rest =>
    rw [before, List.takeWhile_cons] at head
    split at head
    next => exact head
    next => cases head

/-- A text without the characters stands before what stands before the first of them. -/
theorem before_append (free : ∀ c ∈ text, c ∉ stops) (more : List Char) :
    before stops (text ++ more) = text ++ before stops more :=
  List.takeWhile_append_of_pos fun c member => by simpa using free c member

/-- A text without the characters is not part of what stands from the first of them on. -/
theorem onward_append (free : ∀ c ∈ text, c ∉ stops) (more : List Char) :
    onward stops (text ++ more) = onward stops more :=
  List.dropWhile_append_of_pos fun c member => by simpa using free c member

/-- Nothing stands before one of the characters at the beginning. -/
theorem before_eq_nil (head : ∀ c ∈ text.head?, c ∈ stops) : before stops text = [] := by
  cases text with
  | nil => rfl
  | cons c rest => simp [before, head c rfl]

/-- A text that begins with one of the characters stands from there on. -/
theorem onward_eq_self (head : ∀ c ∈ text.head?, c ∈ stops) : onward stops text = text := by
  have whole := before_append_onward stops text
  rwa [before_eq_nil head] at whole

end Stops

/-- A text is cut at a separator whose first character stands nowhere before it. -/
theorem cutAt?_append {first : Char} {before : List Char} (free : first ∉ before)
    (others after : List Char) :
    cutAt? (first :: others) (before ++ (first :: others ++ after)) = some (before, after) := by
  induction before with
  | nil =>
    have begins : (first :: others).isPrefixOf (first :: (others ++ after)) = true :=
      List.isPrefixOf_iff_prefix.mpr (List.prefix_append _ _)
    rw [List.nil_append, List.cons_append, cutAt?, if_pos begins, ← List.cons_append,
      List.drop_left]
  | cons c before inductionHypothesis =>
    obtain ⟨different, others⟩ := not_or.mp fun found => free (List.mem_cons.mpr found)
    rw [List.cons_append, cutAt?, inductionHypothesis others, if_neg]
    · rfl
    · simp [List.isPrefixOf, different]

section CutAt

variable {separator text before after : List Char}

/-- A text that contains a separator is cut. -/
theorem exists_cutAt?_eq_some (nonempty : separator ≠ []) (contained : separator <:+: text) :
    ∃ parts, cutAt? separator text = some parts := by
  induction text with
  | nil => exact absurd (List.infix_nil.mp contained) nonempty
  | cons c rest inductionHypothesis =>
    rw [cutAt?]
    split
    next => exact ⟨_, rfl⟩
    next later =>
      rw [List.isPrefixOf_iff_prefix] at later
      have behind := (List.infix_cons_iff.mp contained).resolve_left later
      obtain ⟨parts, cut⟩ := inductionHypothesis behind
      exact ⟨_, by rw [cut, Option.map_some]⟩

/-- The two parts of a cut stand on the sides of the separator. -/
theorem eq_append_of_cutAt? (cut : cutAt? separator text = some (before, after)) :
    text = before ++ (separator ++ after) := by
  induction text generalizing before with
  | nil => cases cut
  | cons c rest inductionHypothesis =>
    rw [cutAt?] at cut
    split at cut
    next begins =>
      cases cut
      obtain ⟨behind, same⟩ := List.isPrefixOf_iff_prefix.mp begins
      rw [← same, List.drop_left, List.nil_append]
    next =>
      obtain ⟨⟨others, _⟩, found, same⟩ := Option.map_eq_some_iff.mp cut
      cases same
      rw [inductionHypothesis found, List.cons_append]

/-- Where a text is cut does not depend on what stands behind the separator. -/
theorem cutAt?_replace (nonempty : separator ≠ [])
    (cut : cutAt? separator text = some (before, after)) (other : List Char) :
    cutAt? separator (before ++ (separator ++ other)) = some (before, other) := by
  induction text generalizing before with
  | nil => cases cut
  | cons c rest inductionHypothesis =>
    rw [cutAt?] at cut
    split at cut
    next =>
      cases cut
      obtain ⟨first, others, rfl⟩ := List.exists_cons_of_ne_nil nonempty
      exact cutAt?_append List.not_mem_nil others other
    next later =>
      obtain ⟨⟨before, _⟩, found, same⟩ := Option.map_eq_some_iff.mp cut
      cases same
      rw [List.cons_append, cutAt?, inductionHypothesis found, if_neg]
      · rfl
      -- A separator that begins here ends before the text goes on differently.
      · intro begins
        rw [List.isPrefixOf_iff_prefix, ← List.append_assoc, ← List.cons_append] at begins
        have short : separator.length ≤ (c :: (before ++ separator)).length := by simp; omega
        have within := List.prefix_of_prefix_length_le begins (List.prefix_append _ other) short
        apply later
        rw [List.isPrefixOf_iff_prefix, eq_append_of_cutAt? found, ← List.append_assoc,
          ← List.cons_append]
        exact within.trans (List.prefix_append _ after)

end CutAt

/-- The two parts of a cut at the last occurrence of a character make up the text. -/
theorem throughLast_append_afterLast (separator : Char) (text : List Char) :
    throughLast separator text ++ afterLast separator text = text := by
  rw [throughLast, afterLast, ← List.reverse_append, List.takeWhile_append_dropWhile,
    List.reverse_reverse]

/-- What stands after the last occurrence of a character does not contain it. -/
theorem not_mem_afterLast (separator : Char) (text : List Char) :
    separator ∉ afterLast separator text := by
  intro member
  have kept := List.all_eq_true.mp List.all_takeWhile separator (List.mem_reverse.mp member)
  simp at kept

/-- A cut at the last occurrence of a character adds no characters. -/
theorem mem_of_mem_throughLast {separator c : Char} {text : List Char}
    (member : c ∈ throughLast separator text) : c ∈ text := by
  rw [← throughLast_append_afterLast separator text]
  exact List.mem_append_left _ member

/-- A cut at the last occurrence of a character adds no characters. -/
theorem mem_of_mem_afterLast {separator c : Char} {text : List Char}
    (member : c ∈ afterLast separator text) : c ∈ text := by
  rw [← throughLast_append_afterLast separator text]
  exact List.mem_append_right _ member

/-- What follows without the character is part of what stands after its last occurrence. -/
theorem afterLast_append {separator : Char} {after : List Char} (free : separator ∉ after)
    (before : List Char) :
    afterLast separator (before ++ after) = afterLast separator before ++ after := by
  have kept : ∀ c ∈ after.reverse, decide (c ≠ separator) = true := by
    intro c member
    rw [decide_eq_true_eq]
    rintro rfl
    exact free (List.mem_reverse.mp member)
  rw [afterLast, List.reverse_append, List.takeWhile_append_of_pos kept, List.reverse_append,
    List.reverse_reverse, afterLast]

/-- A text without the character stands after its last occurrence. -/
theorem afterLast_of_not_mem {separator : Char} {text : List Char} (free : separator ∉ text) :
    afterLast separator text = text :=
  afterLast_append free []

/-- What stands after the last occurrence of a character does not depend on what stands before one of
them. -/
theorem afterLast_append_separator (separator : Char) (before after : List Char) :
    afterLast separator (before ++ separator :: after) = afterLast separator after := by
  have stops : (separator :: before.reverse).takeWhile (· ≠ separator) = [] := by simp
  rw [afterLast, afterLast, List.reverse_append, List.reverse_cons, List.append_assoc,
    List.singleton_append, List.takeWhile_append, stops, List.append_nil]
  split
  next whole => rw [(List.takeWhile_sublist _).eq_of_length whole]
  next => rfl

/-- What stands after the last occurrence of a character, where this is known. -/
theorem afterLast_append_cons {separator : Char} {after : List Char} (free : separator ∉ after)
    (before : List Char) : afterLast separator (before ++ separator :: after) = after := by
  rw [afterLast_append_separator, afterLast_of_not_mem free]

/-- What stands after the last occurrence of a character can be looked for behind the first one. -/
theorem afterLast_drop_onward {separator : Char} {text : List Char} (member : separator ∈ text) :
    afterLast separator ((onward [separator] text).drop 1) = afterLast separator text := by
  have whole := before_append_onward [separator] text
  cases behind : onward [separator] text with
  | nil =>
    rw [behind, List.append_nil] at whole
    rw [← whole] at member
    exact absurd List.mem_cons_self (not_mem_of_mem_before member)
  | cons c rest =>
    have first : c ∈ (onward [separator] text).head? := by
      rw [behind]
      rfl
    obtain rfl := List.mem_singleton.mp (mem_of_mem_head?_onward first)
    rw [← whole, behind, afterLast_append_separator, List.drop_one, List.tail_cons]

/-- What stands up to the last occurrence of a character, where this is known. -/
theorem throughLast_append_cons {separator : Char} {after : List Char} (free : separator ∉ after)
    (before : List Char) :
    throughLast separator (before ++ separator :: after) = before ++ [separator] := by
  have whole := throughLast_append_afterLast separator (before ++ separator :: after)
  rw [afterLast_append_cons free] at whole
  exact List.append_cancel_right (whole.trans (List.append_cons before separator after))

/-- A text with a character in it can be cut at the last occurrence. -/
theorem exists_eq_append_cons {separator : Char} {text : List Char} (member : separator ∈ text) :
    ∃ before after, text = before ++ separator :: after ∧ separator ∉ after := by
  obtain ⟨after, before, same, free⟩ :=
    List.eq_append_cons_of_mem (List.mem_reverse.mpr member)
  refine ⟨before.reverse, after.reverse, ?_, fun last => free (List.mem_reverse.mp last)⟩
  rw [← List.reverse_reverse text, same, List.reverse_append, List.reverse_cons, List.append_assoc,
    List.singleton_append]

/-- A text has at least one part. -/
theorem splitAt_ne_nil (separator : Char) (text : List Char) : splitAt separator text ≠ [] := by
  cases text with
  | nil => exact List.cons_ne_nil _ _
  | cons c rest =>
    rw [splitAt]
    split
    next => exact List.cons_ne_nil _ _
    next => split <;> exact List.cons_ne_nil _ _

/-- The parts on the two sides of a separator are found separately. -/
theorem splitAt_append_cons (separator : Char) (before after : List Char) :
    splitAt separator (before ++ separator :: after) =
      splitAt separator before ++ splitAt separator after := by
  induction before with
  | nil => simp [splitAt]
  | cons c before inductionHypothesis =>
    rw [List.cons_append, splitAt, splitAt, inductionHypothesis]
    split
    next => rfl
    next =>
      cases parts : splitAt separator before with
      | nil => exact absurd parts (splitAt_ne_nil separator before)
      | cons part parts => rfl

/-- What stands before a text without a separator becomes part of the first part. -/
theorem splitAt_append {separator : Char} {before : List Char} (free : separator ∉ before)
    (after : List Char) :
    splitAt separator (before ++ after) = (splitAt separator after).modifyHead (before ++ ·) := by
  induction before with
  | nil =>
    rw [List.nil_append]
    cases splitAt separator after <;> rfl
  | cons c before inductionHypothesis =>
    obtain ⟨different, others⟩ := not_or.mp fun found => free (List.mem_cons.mpr found)
    rw [List.cons_append, splitAt, if_neg (Ne.symm different), inductionHypothesis others]
    cases parts : splitAt separator after with
    | nil => exact absurd parts (splitAt_ne_nil separator after)
    | cons part parts => rfl

/-- A text without the separator is a single part. -/
theorem splitAt_of_not_mem {separator : Char} {text : List Char} (free : separator ∉ text) :
    splitAt separator text = [text] := by
  have whole := splitAt_append free []
  rwa [List.append_nil, splitAt, List.modifyHead_cons, List.append_nil] at whole

/-- A text with a separator before each part is cut into these parts, behind an empty one. -/
theorem splitAt_flatMap {separator : Char} {parts : List (List Char)}
    (free : ∀ part ∈ parts, separator ∉ part) :
    splitAt separator (parts.flatMap (separator :: ·)) = [] :: parts := by
  induction parts with
  | nil => rfl
  | cons part parts inductionHypothesis =>
    obtain ⟨first, others⟩ := List.forall_mem_cons.mp free
    rw [List.flatMap_cons, List.cons_append, splitAt, if_pos rfl, splitAt_append first,
      inductionHypothesis others, List.modifyHead_cons, List.append_nil]

/-- No part contains the separator. -/
theorem not_mem_of_mem_splitAt {separator : Char} {text part : List Char}
    (member : part ∈ splitAt separator text) : separator ∉ part := by
  induction text generalizing part with
  | nil =>
    rw [List.mem_singleton.mp member]
    exact List.not_mem_nil
  | cons c rest inductionHypothesis =>
    rw [splitAt] at member
    split at member
    next =>
      rcases List.mem_cons.mp member with rfl | later
      · exact List.not_mem_nil
      · exact inductionHypothesis later
    next different =>
      cases parts : splitAt separator rest with
      | nil => exact absurd parts (splitAt_ne_nil separator rest)
      | cons first parts =>
        rw [parts] at member inductionHypothesis
        rcases List.mem_cons.mp member with rfl | later
        · rw [List.mem_cons, not_or]
          exact ⟨Ne.symm different, inductionHypothesis List.mem_cons_self⟩
        · exact inductionHypothesis (List.mem_cons_of_mem _ later)

/-- A part has only characters of the text. -/
theorem mem_of_mem_splitAt {separator c : Char} {text part : List Char}
    (isPart : part ∈ splitAt separator text) (member : c ∈ part) : c ∈ text := by
  induction text generalizing part with
  | nil =>
    rw [List.mem_singleton.mp isPart] at member
    cases member
  | cons first rest inductionHypothesis =>
    rw [splitAt] at isPart
    split at isPart
    next =>
      rcases List.mem_cons.mp isPart with rfl | later
      · cases member
      · exact List.mem_cons_of_mem _ (inductionHypothesis later member)
    next =>
      cases parts : splitAt separator rest with
      | nil => exact absurd parts (splitAt_ne_nil separator rest)
      | cons head parts =>
        rw [parts] at isPart inductionHypothesis
        rcases List.mem_cons.mp isPart with rfl | later
        · rcases List.mem_cons.mp member with rfl | inHead
          · exact List.mem_cons_self
          · exact List.mem_cons_of_mem _ (inductionHypothesis List.mem_cons_self inHead)
        · exact List.mem_cons_of_mem _
            (inductionHypothesis (List.mem_cons_of_mem _ later) member)

/-- The last part is what stands after the last separator. -/
theorem getLast?_splitAt (separator : Char) (text : List Char) :
    (splitAt separator text).getLast? = some (afterLast separator text) := by
  by_cases member : separator ∈ text
  · obtain ⟨before, after, rfl, free⟩ := exists_eq_append_cons member
    rw [splitAt_append_cons, splitAt_of_not_mem free, afterLast_append_cons free,
      List.getLast?_concat]
  · rw [splitAt_of_not_mem member, afterLast_of_not_mem member]
    rfl

end LinkSieve.Text
