import Mathlib.Data.List.Induction
import LinkSieve.Link.Entity
/-!
# Entities are decoded in one pass

The names of characters are replaced one after the other, in five passes over a value. The passes come
to a single one from left to right, in which no text is read that was written in the place of a name.
There are three reasons. Names do not overlap, since each begins with an ampersand and has no other. A
character that was written in the place of a name is in no name that is looked for afterwards, so it
completes none. And the ampersand, which is in all names, is written last. So decoding undoes escaping.
-/

namespace LinkSieve.Link

open LinkSieve.Text

section ReplaceAll

variable {old new : List Char}

/-- A text without the characters of what is replaced is kept. -/
theorem replaceAll_append_of_free {front : List Char} (nonempty : old ≠ [])
    (free : ∀ c ∈ front, c ∉ old) (rest : List Char) :
    replaceAll old new (front ++ rest) = front ++ replaceAll old new rest := by
  induction front with
  | nil => rfl
  | cons c front inductionHypothesis =>
    obtain ⟨different, others⟩ := List.forall_mem_cons.mp free
    rw [List.cons_append, replaceAll, if_neg, inductionHypothesis others, List.cons_append]
    intro begins
    obtain ⟨first, more, rfl⟩ := List.exists_cons_of_ne_nil nonempty
    rw [List.isPrefixOf_iff_prefix, List.cons_prefix_cons] at begins
    exact different (begins.1 ▸ List.mem_cons_self)

/-- What is replaced is replaced where a text begins with it. -/
theorem replaceAll_append (nonempty : old ≠ []) (rest : List Char) :
    replaceAll old new (old ++ rest) = new ++ replaceAll old new rest := by
  obtain ⟨first, others, rfl⟩ := List.exists_cons_of_ne_nil nonempty
  have begins : (first :: others).isPrefixOf (first :: (others ++ rest)) = true :=
    List.isPrefixOf_iff_prefix.mpr (List.prefix_append _ _)
  rw [List.cons_append, replaceAll, if_pos begins, List.length_cons, Nat.add_sub_cancel,
    List.drop_left]

end ReplaceAll

/-- Reads a text once from left to right and replaces the names of a table where they stand. What is
written in the place of a name is not read. -/
def replaceNames (table : List (List Char × List Char)) : List Char → List Char
  | [] => []
  | c :: rest =>
    match table.find? fun entry => entry.1.isPrefixOf (c :: rest) with
    | some entry => entry.2 ++ replaceNames table (rest.drop (entry.1.length - 1))
    | none => c :: replaceNames table rest
termination_by text => text.length

/-- The shape of a name: an ampersand, and then no other one. -/
def IsEntityName (name : List Char) : Prop := ∃ others, name = '&' :: others ∧ '&' ∉ others

/-- Whether what is written for one name can be no part of another name. -/
def WritesApart (written name : List Char) : Prop := written ≠ [] ∧ ∀ c ∈ written, c ∉ name

/-- A table of names that can be replaced one after the other. -/
structure IsSuccessive (table : List (List Char × List Char)) : Prop where
  isEntityName : ∀ entry ∈ table, IsEntityName entry.1
  writesApart : table.Pairwise fun earlier later => WritesApart earlier.2 later.1

namespace IsEntityName

variable {name : List Char}

/-- A name is not empty. -/
theorem ne_nil (isName : IsEntityName name) : name ≠ [] := by
  obtain ⟨others, rfl, -⟩ := isName
  exact List.cons_ne_nil _ _

/-- A text that does not begin with an ampersand begins with no name. -/
theorem isPrefixOf_cons (isName : IsEntityName name) {c : Char} (different : c ≠ '&')
    (rest : List Char) : name.isPrefixOf (c :: rest) = false := by
  obtain ⟨others, rfl, -⟩ := isName
  simp [List.isPrefixOf, different.symm]

end IsEntityName

section Table

variable {table : List (List Char × List Char)}

/-- A text without ampersands is kept. -/
theorem replaceNames_append_of_free (isName : ∀ entry ∈ table, IsEntityName entry.1)
    {front : List Char} (free : '&' ∉ front) (rest : List Char) :
    replaceNames table (front ++ rest) = front ++ replaceNames table rest := by
  induction front with
  | nil => rfl
  | cons c front inductionHypothesis =>
    obtain ⟨different, others⟩ := not_or.mp fun found => free (List.mem_cons.mpr found)
    have unnamed : table.find? (fun entry => entry.1.isPrefixOf (c :: (front ++ rest))) = none := by
      rw [List.find?_eq_none]
      intro entry member
      rw [(isName entry member).isPrefixOf_cons (Ne.symm different), Bool.not_eq_true]
    rw [List.cons_append, replaceNames, unnamed]
    exact congrArg (c :: ·) (inductionHypothesis others)

/-- What begins a text after the replacement began it before, unless it has a character that was
written. -/
theorem prefix_of_prefix_replaceNames {word : List Char}
    (apart : ∀ entry ∈ table, WritesApart entry.2 word) {text : List Char}
    (begins : word <+: replaceNames table text) : word <+: text := by
  fun_induction replaceNames table text generalizing word with
  | case1 => exact begins
  | case2 c rest entry found inductionHypothesis =>
    obtain ⟨nonempty, free⟩ := apart entry (List.mem_of_find?_eq_some found)
    cases word with
    | nil => exact List.nil_prefix
    | cons first others =>
      obtain ⟨written, more, same⟩ := List.exists_cons_of_ne_nil nonempty
      rw [same, List.cons_append, List.cons_prefix_cons] at begins
      exact absurd List.mem_cons_self (free first (by simp [same, begins.1]))
  | case3 c rest unnamed inductionHypothesis =>
    cases word with
    | nil => exact List.nil_prefix
    | cons first others =>
      rw [List.cons_prefix_cons] at begins ⊢
      refine ⟨begins.1, inductionHypothesis ?_ begins.2⟩
      intro entry member
      obtain ⟨nonempty, free⟩ := apart entry member
      exact ⟨nonempty, fun c written other => free c written (List.mem_cons_of_mem _ other)⟩

/-- Replacing one more name afterwards is replacing it together with the others. The induction follows
the single pass, which finds the name of the table or the further one, or none at all. -/
theorem replaceAll_replaceNames {old new : List Char}
    (isName : ∀ entry ∈ table, IsEntityName entry.1) (isOldName : IsEntityName old)
    (apart : ∀ entry ∈ table, WritesApart entry.2 old) (text : List Char) :
    replaceAll old new (replaceNames table text) = replaceNames (table ++ [(old, new)]) text := by
  fun_induction replaceNames (table ++ [(old, new)]) text with
  | case1 => rw [replaceNames, replaceAll]
  | case2 c rest entry found inductionHypothesis =>
    rw [List.find?_append] at found
    cases named : table.find? (fun entry => entry.1.isPrefixOf (c :: rest)) with
    | some other =>
      rw [named, Option.some_or] at found
      obtain rfl := Option.some.inj found
      obtain ⟨-, free⟩ := apart other (List.mem_of_find?_eq_some named)
      rw [replaceNames, named]
      dsimp only
      rw [replaceAll_append_of_free isOldName.ne_nil free, inductionHypothesis]
    | none =>
      rw [named, Option.none_or, List.find?_singleton] at found
      obtain ⟨begins, rfl⟩ := Option.ite_some_none_eq_some.mp found
      obtain ⟨others, rfl, free⟩ := isOldName
      obtain ⟨behind, same⟩ := List.isPrefixOf_iff_prefix.mp begins
      rw [List.cons_append] at same
      obtain ⟨rfl, rfl⟩ := List.cons.inj same
      dsimp only at inductionHypothesis ⊢
      rw [List.length_cons, Nat.add_sub_cancel, List.drop_left] at inductionHypothesis ⊢
      rw [replaceNames, named]
      dsimp only
      rw [replaceNames_append_of_free isName free, ← List.cons_append,
        replaceAll_append (List.cons_ne_nil _ _), inductionHypothesis]
  | case3 c rest unnamed inductionHypothesis =>
    rw [List.find?_append, Option.or_eq_none_iff] at unnamed
    have kept : replaceNames table (c :: rest) = c :: replaceNames table rest := by
      rw [replaceNames, unnamed.1]
    have later : ¬old <+: c :: rest := by
      simpa [List.isPrefixOf_iff_prefix] using unnamed.2
    rw [kept, replaceAll, if_neg, inductionHypothesis]
    rw [← kept, List.isPrefixOf_iff_prefix]
    intro begins
    exact later (prefix_of_prefix_replaceNames apart begins)

/-- Nothing is replaced without names. -/
theorem replaceNames_nil (text : List Char) : replaceNames [] text = text := by
  induction text with
  | nil => rw [replaceNames]
  | cons c rest inductionHypothesis =>
    rw [replaceNames, List.find?_nil]
    exact congrArg (c :: ·) inductionHypothesis

end Table

/-- Names that are replaced one after the other are replaced in one pass. The induction is on the table
from its end, since each further pass reads what the passes before it have left. -/
theorem foldl_replaceAll_eq_replaceNames {table : List (List Char × List Char)}
    (successive : IsSuccessive table) (text : List Char) :
    table.foldl (fun text entry => replaceAll entry.1 entry.2 text) text =
      replaceNames table text := by
  induction table using List.reverseRecOn with
  | nil => exact (replaceNames_nil text).symm
  | append_singleton earlier last inductionHypothesis =>
    obtain ⟨isName, apart⟩ := successive
    rw [List.forall_mem_append] at isName
    rw [List.pairwise_append] at apart
    obtain ⟨earlierApart, -, lastApart⟩ := apart
    rw [List.foldl_append, inductionHypothesis ⟨isName.1, earlierApart⟩]
    apply replaceAll_replaceNames isName.1 (isName.2 last (List.mem_singleton_self last))
    intro entry member
    exact lastApart entry member last (List.mem_singleton_self last)

/-- The names of characters are ampersands followed by other characters, and what is written for one of
them is in no name that is replaced later. -/
theorem isSuccessive_entities : IsSuccessive entities where
  isEntityName := by
    simp [entities, IsEntityName]
  writesApart := by
    simp [entities, WritesApart]

/-- How a character is written in an attribute value. -/
def escapeChar : Char → List Char
  | '&' => "&amp;".toList
  | '<' => "&lt;".toList
  | '>' => "&gt;".toList
  | '"' => "&quot;".toList
  | '\'' => "&#39;".toList
  | c => [c]

/-- How a text is written in an attribute value. -/
def escapeText (text : List Char) : List Char := text.flatMap escapeChar

/-- A written character is read as that character, whatever follows it. -/
theorem replaceNames_escapeChar (c : Char) (rest : List Char) :
    replaceNames entities (escapeChar c ++ rest) = c :: replaceNames entities rest := by
  unfold escapeChar
  split
  case h_6 noAmpersand _ _ _ _ =>
    have free : '&' ∉ [c] := fun member => noAmpersand (List.mem_singleton.mp member).symm
    exact replaceNames_append_of_free isSuccessive_entities.isEntityName free rest
  all_goals
    change replaceNames entities ('&' :: _) = _
    rw [replaceNames]
    rfl

/-- Replacing the names of characters one after the other is reading a value once. -/
theorem decodeEntities_eq_replaceNames (value : List Char) :
    decodeEntities value = replaceNames entities value :=
  foldl_replaceAll_eq_replaceNames isSuccessive_entities value

/-- Decoding undoes escaping. -/
theorem decodeEntities_escapeText (text : List Char) : decodeEntities (escapeText text) = text := by
  rw [decodeEntities_eq_replaceNames]
  induction text with
  | nil => rw [escapeText, List.flatMap_nil, replaceNames]
  | cons c rest inductionHypothesis =>
    rw [escapeText, List.flatMap_cons, replaceNames_escapeChar]
    exact congrArg (c :: ·) inductionHypothesis

/-- Decoding reads a value once from left to right, replaces each name by its character and does not
read what it has written. So it undoes escaping, and no further: a name that was itself escaped is left
as it was written. -/
theorem decodeEntities_reads_once (text : List Char) :
    decodeEntities text = replaceNames entities text ∧ decodeEntities (escapeText text) = text :=
  ⟨decodeEntities_eq_replaceNames text, decodeEntities_escapeText text⟩

example : decodeEntities "&amp;lt; &quot;&amp;&quot;".toList = "&lt; \"&\"".toList := by
  decide +kernel

end LinkSieve.Link
