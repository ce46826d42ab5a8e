import Mathlib.Data.List.Forall2
/-!
# Small letters

Names are compared without regard to case by their small letters, where only the capital letters of
ASCII have others. So a word has the small form of a name exactly if it has the letters of the name,
each in either case.
-/

namespace LinkSieve.Text

/-- The code point of a small letter. Only the capital letters of ASCII have another one. -/
theorem toNat_toLower (c : Char) :
    c.toLower.toNat = if 65 ≤ c.toNat ∧ c.toNat ≤ 90 then c.toNat + 32 else c.toNat := by
  have capital : (c.val ≥ 'A'.val ∧ c.val ≤ 'Z'.val) ↔ 65 ≤ c.toNat ∧ c.toNat ≤ 90 := by
    simp only [ge_iff_le, UInt32.le_iff_toNat_le]
    exact Iff.rfl
  unfold Char.toLower
  by_cases inside : 65 ≤ c.toNat ∧ c.toNat ≤ 90
  · rw [dif_pos (capital.mpr inside), if_pos inside]
    change (c.val.toNat + 32) % 2 ^ 32 = c.val.toNat + 32
    have bound : c.val.toNat ≤ 90 := inside.2
    omega
  · rw [dif_neg (fun isCapital => inside (capital.mp isCapital)), if_neg inside]

/-- A character has the small form of a capital letter if it is that letter in either case. -/
theorem toLower_eq_iff {letter : Char} (capital : 65 ≤ letter.toNat ∧ letter.toNat ≤ 90)
    (c : Char) :
    c.toLower = letter.toLower ↔ c = letter ∨ c = letter.toLower := by
  simp only [← Char.toNat_inj, toNat_toLower, if_pos capital]
  split <;> omega

/-- Words with the same small form as a name in capital letters spell that name. -/
theorem map_toLower_eq_iff {name : List Char}
    (capitals : ∀ letter ∈ name, 65 ≤ letter.toNat ∧ letter.toNat ≤ 90) (word : List Char) :
    word.map Char.toLower = name.map Char.toLower ↔
      List.Forall₂ (fun c letter => c = letter ∨ c = letter.toLower) word name := by
  rw [← List.forall₂_eq_eq_eq, List.forall₂_map_left_iff, List.forall₂_map_right_iff]
  induction word generalizing name with
  | nil => simp
  | cons c rest inductionHypothesis =>
    cases name with
    | nil => simp
    | cons letter letters =>
      obtain ⟨capital, others⟩ := List.forall_mem_cons.mp capitals
      rw [List.forall₂_cons, List.forall₂_cons]
      exact and_congr (toLower_eq_iff capital c) (inductionHypothesis others)

end LinkSieve.Text
