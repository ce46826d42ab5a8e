import Mathlib.Data.List.Nodup
import Mathlib.Data.List.Perm.Subperm
import LinkSieve.Harvest.Harvester
import LinkSieve.Proofs.Link.FileName
/-!
# Names that are free

The name that a run gives to a file is not taken, and it is the wanted name or one of its numbered
variants. Variants with different numbers are different, so one more variant than there are taken
names cannot all be taken. A number, a hyphen and the two parts of a name make no slash and no dot
segment, so that a variant is a file name if the wanted name is one.
-/

namespace LinkSieve.Harvest

open LinkSieve.Text LinkSieve.Link

/-- The characters of a variant. -/
theorem toList_numbered (name : String) (number : Nat) :
    (numbered name number).toList = (splitExtension name.toList).1 ++
      '-' :: Nat.toDigits 10 number ++ (splitExtension name.toList).2 := by
  unfold numbered
  rw [String.toList_ofList, Nat.toString_eq_ofList_toDigits, String.toList_ofList]

/-- Different numbers make different variants of a name. -/
theorem numbered_injective (name : String) : Function.Injective (numbered name) := by
  intro first second same
  have sameChars := congrArg String.toList same
  rw [toList_numbered, toList_numbered] at sameChars
  have sameStart := List.append_cancel_right sameChars
  have sameDigits := (List.cons.inj (List.append_cancel_left sameStart)).2
  have sameValue := congrArg (fun digits => Nat.ofDigitChars 10 digits 0) sameDigits
  simpa using sameValue

/-- Among more different names than are taken, one is not taken. -/
theorem exists_mem_not_mem {candidates taken : List String} (distinct : candidates.Nodup)
    (more : taken.length < candidates.length) : ∃ candidate ∈ candidates, candidate ∉ taken := by
  by_contra none
  push Not at none
  have bound := (distinct.subperm none).length_le
  omega

/-- Among one more variant than there are taken names, one is not taken. -/
theorem exists_numbered_not_mem (taken : List String) (name : String) :
    ∃ candidate ∈ (List.range' 1 (taken.length + 1)).map (numbered name), candidate ∉ taken := by
  refine exists_mem_not_mem ((List.nodup_range' 1).map (numbered_injective name)) ?_
  rw [List.length_map, List.length_range']
  exact Nat.lt_succ_self _

/-- A free name is the wanted name if this is not taken, and otherwise a variant. In both cases it
is not taken. -/
theorem freeName_spec (taken : List String) (name : String) :
    freeName taken name ∉ taken ∧
      (freeName taken name = name ∨ ∃ number, freeName taken name = numbered name number) := by
  unfold freeName
  by_cases free : name ∉ taken
  · rw [if_pos free]
    exact ⟨free, Or.inl rfl⟩
  · rw [if_neg free]
    obtain ⟨candidate, member, candidateFree⟩ := exists_numbered_not_mem taken name
    have exists_free : (((List.range' 1 (taken.length + 1)).map (numbered name)).find? fun other =>
        other ∉ taken).isSome = true :=
      List.find?_isSome.mpr ⟨candidate, member, by simpa using candidateFree⟩
    obtain ⟨candidate, found⟩ := Option.isSome_iff_exists.mp exists_free
    rw [found, Option.getD_some]
    have notTaken : candidate ∉ taken := by simpa using List.find?_some found
    obtain ⟨number, -, variant⟩ := List.mem_map.mp (List.mem_of_find?_eq_some found)
    exact ⟨notTaken, Or.inr ⟨number, variant.symm⟩⟩

/-- The two parts of a name have no other characters than the name and the dot between them. -/
theorem mem_of_mem_splitExtension {name : List Char} {c : Char}
    (member : c ∈ (splitExtension name).1 ∨ c ∈ (splitExtension name).2) : c ∈ name ∨ c = '.' := by
  unfold splitExtension at member
  split at member
  next => exact Or.inl (by simpa using member)
  next => exact Or.inl (by simpa using member)
  next =>
    rcases member with inStem | inExtension
    · exact Or.inl (mem_of_mem_throughLast ((List.dropLast_sublist _).subset inStem))
    · rcases List.mem_cons.mp inExtension with rfl | inExtension
      · exact Or.inr rfl
      · exact Or.inl (mem_of_mem_afterLast inExtension)

/-- A variant of a file name is a file name. The hyphen keeps it from being a dot segment. -/
theorem isFileName_numbered {name : String} (isFileName : IsFileName name.toList) (number : Nat) :
    IsFileName (numbered name number).toList := by
  have hyphen : '-' ∈ (numbered name number).toList := by simp [toList_numbered]
  refine ⟨List.ne_nil_of_mem hyphen, ?_, ?_, ?_⟩
  · rw [toList_numbered]
    intro slash
    have digits : '/' ∉ Nat.toDigits 10 number := by
      intro member
      have isDigit := Nat.isDigit_of_mem_toDigits (by decide) (by decide) member
      revert isDigit
      decide
    have parts : '/' ∈ (splitExtension name.toList).1 ∨ '/' ∈ (splitExtension name.toList).2 := by
      simpa [digits] using slash
    rcases mem_of_mem_splitExtension parts with inName | isDot
    · exact isFileName.noSlash inName
    · revert isDot
      decide
  · intro dot
    rw [dot] at hyphen
    revert hyphen
    decide
  · intro dots
    rw [dots] at hyphen
    revert hyphen
    decide

/-- A name that a file is given is a file name if the wanted one is. -/
theorem isFileName_freeName {name : String} (isFileName : IsFileName name.toList)
    (taken : List String) : IsFileName (freeName taken name).toList := by
  rcases (freeName_spec taken name).2 with same | ⟨number, variant⟩
  · rwa [same]
  · rw [variant]
    exact isFileName_numbered isFileName number

/-- Different names are different files of a directory. -/
theorem joinPath_injective (directory : String) : Function.Injective (joinPath directory) := by
  intro first second same
  unfold joinPath at same
  split at same <;> exact (String.append_right_inj _).mp same

/-- A file of a directory has its name behind the last slash of its path. -/
theorem afterLast_joinPath {name : String} (noSlash : '/' ∉ name.toList) (directory : String) :
    afterLast '/' (joinPath directory name).toList = name.toList := by
  unfold joinPath
  split
  next direct =>
    rw [String.toList_append]
    rcases Bool.or_eq_true_iff.mp direct with empty | slash
    · have nothing : directory.toList = [] := by simpa using empty
      rw [nothing, afterLast_append noSlash]
      rfl
    · rw [← String.endsWith_toSlice, String.Slice.endsWith_string_iff, String.copy_toSlice] at slash
      obtain ⟨before, same⟩ := slash
      rw [← same, List.append_assoc]
      exact afterLast_append_cons noSlash before
  next =>
    rw [String.toList_append, String.toList_append, List.append_assoc]
    exact afterLast_append_cons noSlash directory.toList

end LinkSieve.Harvest
