import LinkSieve.Proofs.Files.Local
/-!
# What a local fetch leaves

A fetch that saves nothing leaves the tree as it was. One that saves a file changes the place where its
destination leads, and no other. A file that is its own destination keeps its contents, however the two
paths are spelled, although copying it would empty it.

After a successful fetch the contents that the URL named are at the destination, in the number of bytes
that is reported. This holds of files. A directory that is its own destination is reported as present,
while any other destination would have been refused for it.
-/

namespace LinkSieve.Files.Tree

open LinkSieve.Link LinkSieve.Text LinkSieve.Retrieval

section Absolute

variable {tree : Tree} {place reached : Place}

/-- The segments of an absolute path are the names of its place, behind nothing. -/
theorem segments_absolute (named : IsNamed place) (nonempty : place ≠ []) :
    segments (absolute place) = "" :: place := by
  have noSlash : ∀ name ∈ place.map String.toList, '/' ∉ name :=
    List.forall_mem_map.mpr fun name member => (named name member).noSlash
  rw [segments, toList_absolute, joinPath_eq_flatMap (by simpa using nonempty),
    splitAt_flatMap noSlash]
  simp

/-- An absolute path leads to its place, if it leads anywhere. -/
theorem eq_of_place?_absolute (named : IsNamed place) (nonempty : place ≠ [])
    (leads : tree.place? (absolute place) = some reached) : reached = place := by
  have begins : tree.origin (absolute place) = [] := by
    obtain ⟨rest, path⟩ := exists_joinPath_eq_cons (place.map String.toList) false
    rw [origin, toList_absolute, path, if_pos (by rw [List.head?_cons])]
  have root : tree.isDirectory [] = true := decide_eq_true rfl
  rw [place?, begins, segments_absolute named nonempty, trace, if_pos root,
    if_pos (Or.inl rfl)] at leads
  exact eq_append_of_trace named leads

/-- The size of a file is the number of its bytes. -/
theorem eq_length_of_size {content : Content} {bytes : Nat} (named : IsNamed place)
    (stands : tree.get? place = some (.file content))
    (size : tree.size (absolute place) = .ok bytes) : bytes = content.length := by
  unfold Tree.size at size
  cases located : tree.locate (absolute place) with
  | error error =>
    rw [located] at size
    cases size
  | ok found =>
    obtain ⟨found, entry⟩ := found
    obtain ⟨leads, there⟩ := place?_of_locate_eq_ok located
    have below : place ≠ [] := by
      rintro rfl
      cases stands
    obtain rfl := eq_of_place?_absolute named below leads
    obtain rfl := Option.some.inj (stands.symm.trans there)
    rw [located] at size
    cases size
    rfl

end Absolute

namespace Fetches

variable {tree after : Tree} {url destination : String} {outcome : FetchOutcome}

/-- A fetch that saves nothing leaves the tree as it was. -/
theorem eq_of_not_saved (fetches : tree.Fetches url destination outcome after)
    (notSaved : ∀ bytes, outcome ≠ .saved bytes) : after = tree := by
  cases fetches with
  | failed reason => rfl
  | alreadyPresent names together size => rfl
  | saved names located free apart => exact absurd rfl (notSaved _)

/-- A fetch that saves a file puts the contents that its URL names where its destination leads, and
changes nothing elsewhere. -/
theorem exists_of_saved {bytes : Nat} (fetches : tree.Fetches url destination (.saved bytes) after) :
    ∃ path source place content, localPath url.toList = .ok path ∧
      tree.locate path = .ok (source, .file content) ∧ tree.place? destination = some place ∧
      after.locate destination = .ok (place, .file content) ∧ content.length = bytes ∧
      after.workingDirectory = tree.workingDirectory ∧
      ∀ elsewhere, elsewhere ≠ place → after.get? elsewhere = tree.get? elsewhere := by
  cases fetches with
  | @saved path source place content names located free apart =>
    exact ⟨path, source, place, content, names, located, (place?_of_writable_eq_ok free).1,
      locate_set_of_writable free content, rfl, rfl, fun elsewhere different =>
      get?_set_of_ne different⟩

/-- A fetch that finds its file present has the same thing at both ends, and tells its size. -/
theorem exists_of_alreadyPresent {bytes : Nat} (begins : IsNamed tree.workingDirectory)
    (fetches : tree.Fetches url destination (.alreadyPresent bytes) after) :
    ∃ path place entry, localPath url.toList = .ok path ∧ tree.locate path = .ok (place, entry) ∧
      tree.locate destination = .ok (place, entry) ∧ tree.size (absolute place) = .ok bytes ∧
      after = tree := by
  cases fetches with
  | @alreadyPresent path resolved _ names together size =>
    obtain ⟨place, entry, rfl, located, there⟩ := (common?_eq_some_iff begins).mp together
    exact ⟨path, place, entry, names, located, there, size, rfl⟩

/-- A fetch does nothing if its URL and its destination lead to the same place. -/
theorem eq_of_same_place (fetches : tree.Fetches url destination outcome after) {path : String}
    {place : Place} (names : localPath url.toList = .ok path) (leads : tree.place? path = some place)
    (there : tree.place? destination = some place) : after = tree := by
  cases fetches with
  | failed reason => rfl
  | alreadyPresent names together size => rfl
  | saved named located free apart =>
    obtain rfl := Except.ok.inj (named.symm.trans names)
    have source := (place?_of_locate_eq_ok located).1
    have target := (place?_of_writable_eq_ok free).1
    rw [leads] at source
    rw [there] at target
    cases source
    cases target
    exact absurd rfl apart

end Fetches

/-- A local fetch touches nothing but its destination, and only if it saves a file there. Unless it
does, the tree is as before. If it does, every place but the one of the saved file is as before. And a
file that both the URL and the destination lead to keeps its contents. -/
theorem fetch_touches_destination (tree : Tree) (url destination : String) :
    let outcome := (system.fetch url destination tree).1
    let after := (system.fetch url destination tree).2
    ((∀ bytes, outcome ≠ .saved bytes) → after = tree) ∧
    (∀ bytes, outcome = .saved bytes →
      ∃ place content, tree.place? destination = some place ∧
        after.locate destination = .ok (place, .file content) ∧
        after.workingDirectory = tree.workingDirectory ∧
        ∀ elsewhere, elsewhere ≠ place → after.get? elsewhere = tree.get? elsewhere) ∧
    ∀ path place content, localPath url.toList = .ok path → tree.place? path = some place →
      tree.place? destination = some place → tree.get? place = some (.file content) →
      after.get? place = some (.file content) := by
  intro outcome after
  have fetches : tree.Fetches url destination outcome after := fetch_fetches tree url destination
  refine ⟨fetches.eq_of_not_saved, ?_, ?_⟩
  · intro bytes saved
    rw [saved] at fetches
    obtain ⟨_, _, place, content, -, -, leads, there, -, unmoved, frame⟩ := fetches.exists_of_saved
    exact ⟨place, content, leads, there, unmoved, frame⟩
  · intro path place content names leads there stands
    rw [fetches.eq_of_same_place names leads there]
    exact stands

/-- A successful fetch leaves the file that it reports: at the destination stands a file with the
contents that the path of the URL led to before, and with as many bytes as are reported. This holds
unless the destination is a directory. -/
theorem fetch_leaves_file {tree : Tree} (begins : IsNamed tree.workingDirectory)
    {destination : String} (noDirectory : tree.leadsToDirectory destination = false) (url : String)
    {bytes : Nat} (succeeded : (system.fetch url destination tree).1 = .saved bytes ∨
      (system.fetch url destination tree).1 = .alreadyPresent bytes) :
    ∃ path source place content, localPath url.toList = .ok path ∧
      tree.locate path = .ok (source, .file content) ∧
      (system.fetch url destination tree).2.locate destination = .ok (place, .file content) ∧
      content.length = bytes := by
  have fetches := fetch_fetches tree url destination
  rcases succeeded with saved | present
  · rw [saved] at fetches
    obtain ⟨path, source, place, content, names, located, -, there, size, -⟩ :=
      fetches.exists_of_saved
    exact ⟨path, source, place, content, names, located, there, size⟩
  · rw [present] at fetches
    obtain ⟨path, place, entry, names, located, there, size, same⟩ :=
      fetches.exists_of_alreadyPresent begins
    rw [same]
    obtain ⟨leads, stands⟩ := place?_of_locate_eq_ok located
    cases entry with
    | directory =>
      rw [leadsToDirectory, there] at noDirectory
      cases noDirectory
    | file content =>
      have sized := eq_length_of_size (isNamed_of_place? begins leads) stands size
      exact ⟨path, place, place, content, names, located, there, sized.symm⟩

/-- A site with a file and with a directory. -/
def archive : Tree where
  entries := [(["site"], .directory), (["site", "a.pdf"], .file [1, 2]),
    (["site", "old"], .directory)]
  workingDirectory := ["site"]

/-- A file that is its own destination, by another spelling, is reported with its size. -/
theorem fetch_leaves_file_present :
    IsNamed archive.workingDirectory ∧ archive.leadsToDirectory "old/../a.pdf" = false ∧
      (system.fetch "file:///site/./a.pdf" "old/../a.pdf" archive).1 = .alreadyPresent 2 ∧
      ∃ path source place content, localPath "file:///site/./a.pdf".toList = .ok path ∧
        archive.locate path = .ok (source, .file content) ∧
        (system.fetch "file:///site/./a.pdf" "old/../a.pdf" archive).2.locate "old/../a.pdf" =
          .ok (place, .file content) ∧ content.length = 2 := by
  have begins : IsNamed archive.workingDirectory := by decide
  have noDirectory : archive.leadsToDirectory "old/../a.pdf" = false := by decide +kernel
  have present : (system.fetch "file:///site/./a.pdf" "old/../a.pdf" archive).1 =
      .alreadyPresent 2 := by
    decide +kernel
  exact ⟨begins, noDirectory, present, fetch_leaves_file begins noDirectory _ (Or.inr present)⟩

/-- A directory that is its own destination is reported as present, and no file is there. -/
theorem fetch_finds_directory_present :
    ¬∀ (tree : Tree) (url destination : String) (bytes : Nat), IsNamed tree.workingDirectory →
      (system.fetch url destination tree).1 = .saved bytes ∨
        (system.fetch url destination tree).1 = .alreadyPresent bytes →
      ∃ path source place content, localPath url.toList = .ok path ∧
        tree.locate path = .ok (source, .file content) ∧
        (system.fetch url destination tree).2.locate destination = .ok (place, .file content) ∧
        content.length = bytes := by
  intro leaves
  have present : (system.fetch "file:///site/old" "/site/old" archive).1 =
      .alreadyPresent directorySize := by
    decide +kernel
  obtain ⟨path, source, place, content, -, -, there, -⟩ :=
    leaves archive "file:///site/old" "/site/old" directorySize (by decide) (Or.inr present)
  have found : ((system.fetch "file:///site/old" "/site/old" archive).2.locate "/site/old").toOption =
      some (["site", "old"], .directory) := by
    decide +kernel
  rw [there] at found
  cases found

end LinkSieve.Files.Tree
