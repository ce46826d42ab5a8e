import LinkSieve.Link.Scheme
/-!
# Texts with a scheme

What it means for a text to begin with a scheme is said here without reading the text from left to
right: some beginning of it has the form of a scheme and is followed by a colon.
-/

namespace LinkSieve.Link

/-- A text that begins with a scheme: a letter, further characters of a scheme, and a colon. -/
def BeginsWithScheme (text : List Char) : Prop :=
  ∃ first others after, text = first :: (others ++ ':' :: after) ∧ first.isAlpha = true ∧
    ∀ c ∈ others, isSchemeChar c = true

/-- A name of a scheme, without its colon. -/
structure IsSchemeName (name : List Char) : Prop where
  nonempty : name ≠ []
  letter : ∀ c ∈ name.head?, c.isAlpha = true
  others : ∀ c ∈ name.tail, isSchemeChar c = true

/-- A name of a scheme begins with a letter, and has others behind it or none. -/
theorem isSchemeName_cons_iff {first : Char} {others : List Char} :
    IsSchemeName (first :: others) ↔
      first.isAlpha = true ∧ ∀ c ∈ others, isSchemeChar c = true := by
  constructor
  · intro isName
    exact ⟨isName.letter first rfl, isName.others⟩
  · rintro ⟨letter, others⟩
    exact ⟨List.cons_ne_nil _ _, fun c head => Option.some.inj head ▸ letter, others⟩

/-- The letter at the beginning is a character of a scheme as well. -/
theorem IsSchemeName.isSchemeChar {name : List Char} (isName : IsSchemeName name) :
    ∀ c ∈ name, isSchemeChar c = true := by
  obtain ⟨first, others, rfl⟩ := List.exists_cons_of_ne_nil isName.nonempty
  obtain ⟨letter, schemeChars⟩ := isSchemeName_cons_iff.mp isName
  refine List.forall_mem_cons.mpr ⟨?_, schemeChars⟩
  simp [Link.isSchemeChar, Char.isAlphanum, letter]

/-- A text is cut after the name of a scheme and its colon. The colon is no character of a scheme, so
the longest run of these characters ends before it. -/
theorem scheme?_eq_some_iff {text scheme after : List Char} :
    scheme? text = some (scheme, after) ↔
      ∃ name, IsSchemeName name ∧ scheme = name ++ [':'] ∧ text = name ++ ':' :: after := by
  have noSchemeChar : ¬isSchemeChar ':' = true := by decide
  constructor
  · intro found
    unfold scheme? at found
    split at found
    next => cases found
    next first rest =>
      cases letter : first.isAlpha with
      | false => simp [letter] at found
      | true =>
        simp only [letter, Bool.not_true, Bool.false_eq_true, if_false] at found
        split at found
        next remaining cut =>
          obtain ⟨rfl, rfl⟩ := Prod.mk.inj (Option.some.inj found)
          refine ⟨first :: rest.takeWhile isSchemeChar, ?_, rfl, ?_⟩
          · exact isSchemeName_cons_iff.mpr ⟨letter, List.all_eq_true.mp List.all_takeWhile⟩
          · rw [← cut, List.cons_append, List.takeWhile_append_dropWhile]
        next => cases found
  · rintro ⟨name, isName, rfl, rfl⟩
    obtain ⟨first, others, rfl⟩ := List.exists_cons_of_ne_nil isName.nonempty
    obtain ⟨letter, schemeChars⟩ := isSchemeName_cons_iff.mp isName
    have taken : (others ++ ':' :: after).takeWhile isSchemeChar = others := by
      rw [List.takeWhile_append_of_pos schemeChars, List.takeWhile_cons_of_neg noSchemeChar,
        List.append_nil]
    have remaining : (others ++ ':' :: after).dropWhile isSchemeChar = ':' :: after := by
      rw [List.dropWhile_append_of_pos schemeChars, List.dropWhile_cons_of_neg noSchemeChar]
    simp [scheme?, letter, taken, remaining]

/-- A scheme is found in exactly the texts that begin with one. -/
theorem hasScheme_eq_true_iff (text : List Char) :
    hasScheme text = true ↔ BeginsWithScheme text := by
  rw [hasScheme, Option.isSome_iff_exists]
  constructor
  · rintro ⟨⟨scheme, after⟩, found⟩
    obtain ⟨name, isName, -, rfl⟩ := scheme?_eq_some_iff.mp found
    obtain ⟨first, others, rfl⟩ := List.exists_cons_of_ne_nil isName.nonempty
    obtain ⟨letter, schemeChars⟩ := isSchemeName_cons_iff.mp isName
    exact ⟨first, others, after, rfl, letter, schemeChars⟩
  · rintro ⟨first, others, after, rfl, letter, schemeChars⟩
    have isName : IsSchemeName (first :: others) := isSchemeName_cons_iff.mpr ⟨letter, schemeChars⟩
    exact ⟨_, scheme?_eq_some_iff.mpr ⟨first :: others, isName, rfl, rfl⟩⟩

end LinkSieve.Link
