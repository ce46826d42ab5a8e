import LinkSieve.Proofs.Link.FileName
/-!
# Resolving along names

A path that is made of names is left as it is by the walk that removes empty segments and dot
segments. So a relative link of names, resolved on a page in a directory, leads from that directory
along the names of the link.
-/

namespace LinkSieve.Link

open LinkSieve.Text

/-- A name as it stands in the path of a URL: it does not end the path. -/
structure IsUrlName (name : List Char) : Prop extends IsFileName name where
  noEnd : ∀ c ∈ name, c ∉ pathEnds

/-- The names of a path, one after the other without a slash before the first. -/
theorem cons_intercalate (first : List Char) (others : List (List Char)) :
    '/' :: ['/'].intercalate (first :: others) = (first :: others).flatMap ('/' :: ·) := by
  induction others generalizing first with
  | nil => simp
  | cons second others inductionHypothesis =>
    rw [List.intercalate_cons_cons, List.append_assoc, List.singleton_append,
      inductionHypothesis second]
    rfl

/-- A path with a name has a slash before each of its names. -/
theorem joinPath_eq_flatMap {names : List (List Char)} (nonempty : names ≠ []) :
    joinPath names false = names.flatMap ('/' :: ·) := by
  simp [joinPath, nonempty]

/-- A path is a path of its other names, a slash, and its last name. -/
theorem joinPath_concat (names : List (List Char)) (last : List Char) :
    joinPath (names ++ [last]) false = names.flatMap ('/' :: ·) ++ '/' :: last := by
  rw [joinPath_eq_flatMap (by simp), List.flatMap_append, List.flatMap_singleton]

/-- A path of a directory has a slash behind its names, if there are any, and is a slash otherwise. -/
theorem joinPath_directory (names : List (List Char)) :
    joinPath names true = names.flatMap ('/' :: ·) ++ ['/'] := by
  cases names with
  | nil => rfl
  | cons first others => simp [joinPath]

/-- Walking along names takes back none of them. -/
theorem walk_names {names : List (List Char)} (fileNames : ∀ name ∈ names, IsFileName name)
    (walked : List (List Char)) : walk walked names = walked.reverse ++ names := by
  induction names generalizing walked with
  | nil => exact (List.append_nil _).symm
  | cons name names inductionHypothesis =>
    obtain ⟨fileName, others⟩ := List.forall_mem_cons.mp fileNames
    have noStop : ¬(name = [] ∨ name = ['.']) := not_or.mpr ⟨fileName.nonempty, fileName.noDot⟩
    rw [walk, if_neg noStop, if_neg fileName.noDots, inductionHypothesis others,
      List.reverse_cons, List.append_assoc, List.singleton_append]

/-- A walk can pause. -/
theorem walk_append (walked first second : List (List Char)) :
    walk walked (first ++ second) = walk (walk walked first).reverse second := by
  induction first generalizing walked with
  | nil => rw [List.nil_append, walk, List.reverse_reverse]
  | cons segment rest inductionHypothesis =>
    simp only [List.cons_append, walk, inductionHypothesis]
    split
    next => rfl
    next => split <;> rfl

/-- A text ends in a slash and a given name exactly if the name is its last one. -/
theorem isSuffixOf_slash_iff {text after : List Char} (free : '/' ∉ after) :
    ('/' :: after).isSuffixOf text = true ↔ '/' ∈ text ∧ afterLast '/' text = after := by
  rw [List.isSuffixOf_iff_suffix]
  constructor
  · rintro ⟨before, rfl⟩
    exact ⟨by simp, afterLast_append_cons free before⟩
  · rintro ⟨slash, last⟩
    obtain ⟨before, behind, rfl, noSlash⟩ := exists_eq_append_cons slash
    rw [afterLast_append_cons noSlash] at last
    rw [last]
    exact List.suffix_append before _

/-- A path names a directory if nothing or a dot segment stands behind its last slash. -/
theorem namesDirectory_eq_true_iff (text : List Char) :
    namesDirectory text = true ↔
      '/' ∈ text ∧ (afterLast '/' text = [] ∨ isDotSegment (afterLast '/' text) = true) := by
  simp only [namesDirectory, isDotSegment, Bool.or_eq_true, decide_eq_true_eq, or_assoc,
    isSuffixOf_slash_iff List.not_mem_nil, isSuffixOf_slash_iff (show '/' ∉ ['.'] by decide),
    isSuffixOf_slash_iff (show '/' ∉ ['.', '.'] by decide), ← and_or_left]

/-- Whether a path names a directory shows behind any of its slashes. -/
theorem namesDirectory_append_slash (before after : List Char) :
    namesDirectory (before ++ '/' :: after) = namesDirectory ('/' :: after) := by
  rw [Bool.eq_iff_iff, namesDirectory_eq_true_iff, namesDirectory_eq_true_iff,
    afterLast_append_separator, ← List.nil_append ('/' :: after), afterLast_append_separator]
  simp

section Names

variable {names : List (List Char)}

/-- The segments of a path are its names, behind nothing, and before nothing if there is a slash at the
end. -/
theorem splitAt_joinPath (noSlash : ∀ name ∈ names, '/' ∉ name) (directory : Bool) :
    splitAt '/' (joinPath names directory) =
      [] :: (names ++ if names.isEmpty || directory then [[]] else []) := by
  cases names with
  | nil => rfl
  | cons first others =>
    cases directory with
    | false => rw [joinPath_eq_flatMap (by simp), splitAt_flatMap noSlash]; simp
    | true => rw [joinPath_directory, splitAt_append_cons, splitAt_flatMap noSlash]; simp [splitAt]

/-- The names of a path are its segments that are not empty. -/
theorem filter_splitAt_joinPath (fileNames : ∀ name ∈ names, IsFileName name) (directory : Bool) :
    (splitAt '/' (joinPath names directory)).filter (· ≠ []) = names := by
  have nonempty : ∀ name ∈ names, decide (name ≠ []) = true := fun name member =>
    decide_eq_true (fileNames name member).nonempty
  rw [splitAt_joinPath (fun name member => (fileNames name member).noSlash),
    List.filter_cons_of_neg (by decide), List.filter_append, List.filter_eq_self.mpr nonempty]
  split <;> simp

/-- A path of names leads along them. -/
theorem walk_joinPath (fileNames : ∀ name ∈ names, IsFileName name) (directory : Bool) :
    walk [] (splitAt '/' (joinPath names directory)) = names := by
  rw [splitAt_joinPath (fun name member => (fileNames name member).noSlash), walk,
    if_pos (Or.inl rfl), walk_append, walk_names fileNames]
  split <;> simp [walk]

/-- A path names a directory if it has a slash at its end. -/
theorem namesDirectory_joinPath (fileNames : ∀ name ∈ names, IsFileName name) (directory : Bool) :
    namesDirectory (joinPath names directory) = (names.isEmpty || directory) := by
  cases directory with
  | true =>
    rw [joinPath_directory, namesDirectory_append_slash]
    simp [namesDirectory]
  | false =>
    rcases List.eq_nil_or_concat names with rfl | ⟨others, last, rfl⟩
    · rfl
    · have fileName := fileNames last (by simp)
      rw [List.concat_eq_append, joinPath_concat, Bool.eq_iff_iff, namesDirectory_eq_true_iff,
        afterLast_append_cons fileName.noSlash]
      simp [isDotSegment, fileName.nonempty, fileName.noDot, fileName.noDots]

/-- A path of names has nothing that would end it. -/
theorem not_mem_pathEnds_of_mem_joinPath (noEnds : ∀ name ∈ names, ∀ c ∈ name, c ∉ pathEnds)
    (directory : Bool) : ∀ c ∈ joinPath names directory, c ∉ pathEnds := by
  have slash : '/' ∉ pathEnds := by decide
  have inNames : ∀ c ∈ names.flatMap ('/' :: ·), c ∉ pathEnds := by
    intro c member
    obtain ⟨name, inNames, inName⟩ := List.mem_flatMap.mp member
    rcases List.mem_cons.mp inName with rfl | inName
    · exact slash
    · exact noEnds name inNames c inName
  intro c member
  unfold joinPath at member
  split at member
  next =>
    rw [List.mem_singleton.mp member]
    exact slash
  next =>
    rcases List.mem_append.mp member with inPath | atEnd
    · exact inNames c inPath
    · split at atEnd
      next =>
        rw [List.mem_singleton.mp atEnd]
        exact slash
      next => cases atEnd

/-- A path of names stays as it is, whatever follows the path. -/
theorem normalizePath_joinPath (urlNames : ∀ name ∈ names, IsUrlName name) (directory : Bool)
    (suffix : List Char) (ends : ∀ c ∈ suffix.head?, c ∈ pathEnds) :
    normalizePath (joinPath names directory ++ suffix) = joinPath names directory ++ suffix := by
  have free := not_mem_pathEnds_of_mem_joinPath (fun name member => (urlNames name member).noEnd)
    directory
  have fileNames : ∀ name ∈ names, IsFileName name := fun name member =>
    (urlNames name member).toIsFileName
  have path : joinPath names (names.isEmpty || directory) = joinPath names directory := by
    cases names <;> rfl
  rw [normalizePath, before_append free, onward_append free, before_eq_nil ends,
    onward_eq_self ends, List.append_nil, walk_joinPath fileNames,
    namesDirectory_joinPath fileNames, path]

/-- The URL of a local file is cut behind its scheme. -/
theorem cutAt?_fileScheme (rest : List Char) :
    cutAt? "://".toList (fileScheme ++ rest) = some ("file".toList, rest) := by
  have separator : "://".toList = ':' :: ['/', '/'] := rfl
  have scheme : fileScheme ++ rest = "file".toList ++ (':' :: ['/', '/'] ++ rest) := rfl
  rw [separator, scheme]
  exact cutAt?_append (by decide) _ _

/-- Nothing in the scheme of local files ends a path. -/
theorem not_mem_pathEnds_of_mem_fileScheme : ∀ c ∈ fileScheme, c ∉ pathEnds := by
  have scheme : fileScheme.all (fun c => !pathEnds.contains c) = true := by decide
  intro c member
  simpa using List.all_eq_true.mp scheme c member

/-- The last segment of the URL of a local file stands after the last slash of what is behind the
scheme. -/
theorem lastSegment_fileScheme {rest : List Char} (member : '/' ∈ before pathEnds rest) :
    lastSegment (fileScheme ++ rest) = afterLast '/' (before pathEnds rest) := by
  rw [lastSegment, linkPath, before_append not_mem_pathEnds_of_mem_fileScheme, cutAt?_fileScheme]
  exact afterLast_drop_onward member

/-- Without a slash behind the scheme, the URL of a local file has no last segment. -/
theorem lastSegment_fileScheme_of_not_mem {rest : List Char} (free : '/' ∉ before pathEnds rest) :
    lastSegment (fileScheme ++ rest) = [] := by
  have noStop : ∀ c ∈ before pathEnds rest, c ∉ ['/'] := by
    intro c member slash
    rw [List.mem_singleton.mp slash] at member
    exact free member
  rw [lastSegment, linkPath, before_append not_mem_pathEnds_of_mem_fileScheme, cutAt?_fileScheme]
  dsimp only
  rw [onward_of_free noStop]
  rfl

/-- A path of names begins with a slash. -/
theorem exists_joinPath_eq_cons (names : List (List Char)) (directory : Bool) :
    ∃ rest, joinPath names directory = '/' :: rest := by
  cases names with
  | nil => exact ⟨[], rfl⟩
  | cons first others => exact ⟨_, rfl⟩

/-- The parts of the URL of a local file. -/
theorem ofUrl?_fileScheme (urlNames : ∀ name ∈ names, IsUrlName name) :
    Base.ofUrl? (fileScheme ++ joinPath names false) =
      some ⟨"file".toList, [], joinPath names false⟩ := by
  have path := before_of_free (not_mem_pathEnds_of_mem_joinPath
    (fun name member => (urlNames name member).noEnd) false)
  obtain ⟨rest, same⟩ := exists_joinPath_eq_cons names false
  rw [Base.ofUrl?, cutAt?_fileScheme]
  rw [same] at path ⊢
  simpa [before, onward] using path

/-- The last name of a path is the last segment of the URL of a local file. -/
theorem lastSegment_joinPath {last : List Char}
    (urlNames : ∀ name ∈ names ++ [last], IsUrlName name) :
    lastSegment (fileScheme ++ joinPath (names ++ [last]) false) = last := by
  have noSlash : '/' ∉ last := (urlNames last (by simp)).noSlash
  have path := before_of_free (not_mem_pathEnds_of_mem_joinPath
    (fun name member => (urlNames name member).noEnd) false)
  rw [joinPath_concat] at path ⊢
  rw [lastSegment_fileScheme (by rw [path]; simp), path, afterLast_append_cons noSlash]

end Names

/-- A link that says no more than a path that is relative is walked from the directory of its page. -/
theorem resolve_relative {page link : List Char} {base : Base} (noScheme : hasScheme link = false)
    (parts : Base.ofUrl? page = some base) (plain : ∀ c ∈ link.head?, c ≠ '/' ∧ c ∉ pathEnds) :
    resolve page link = base.site ++ normalizePath (base.directory ++ link) := by
  unfold resolve
  rw [noScheme, if_neg Bool.false_ne_true, parts]
  dsimp only
  split
  next => exact absurd rfl (plain '/' rfl).1
  next => exact absurd rfl (plain '/' rfl).1
  next => exact absurd (by decide) (plain '?' rfl).2
  next => exact absurd (by decide) (plain '#' rfl).2
  next => rfl

/-- A relative link of names leads along them from the directory of the page. -/
theorem resolve_names {directory relative : List (List Char)} {page : List Char}
    (pageNames : ∀ name ∈ directory ++ [page], IsUrlName name)
    (linkNames : ∀ name ∈ relative, IsUrlName name) (nonempty : relative ≠ [])
    (noScheme : hasScheme (['/'].intercalate relative) = false) :
    resolve (fileScheme ++ joinPath (directory ++ [page]) false) (['/'].intercalate relative) =
      fileScheme ++ joinPath (directory ++ relative) false := by
  obtain ⟨first, others, rfl⟩ := List.exists_cons_of_ne_nil nonempty
  have allNames : ∀ name ∈ directory ++ first :: others, IsUrlName name := by
    intro name member
    rcases List.mem_append.mp member with inDirectory | inLink
    · exact pageNames name (List.mem_append_left _ inDirectory)
    · exact linkNames name inLink
  have plain : ∀ c ∈ (['/'].intercalate (first :: others)).head?, c ≠ '/' ∧ c ∉ pathEnds := by
    have urlName : IsUrlName first := linkNames first List.mem_cons_self
    obtain ⟨letter, rest, rfl⟩ := List.exists_cons_of_ne_nil urlName.nonempty
    have begins := cons_intercalate (letter :: rest) others
    rw [List.flatMap_cons, List.cons_append, List.cons_append, List.cons.injEq] at begins
    rintro c begun
    rw [begins.2] at begun
    cases begun
    constructor
    · rintro rfl
      exact urlName.noSlash List.mem_cons_self
    · exact urlName.noEnd _ List.mem_cons_self
  have above : Base.directory ⟨"file".toList, [], joinPath (directory ++ [page]) false⟩ =
      directory.flatMap ('/' :: ·) ++ ['/'] := by
    have noSlash : '/' ∉ page := (pageNames page (by simp)).noSlash
    have slash : (joinPath (directory ++ [page]) false).contains '/' = true := by
      simp [joinPath_concat]
    rw [Base.directory, if_pos slash, joinPath_concat, throughLast_append_cons noSlash]
  have path : directory.flatMap ('/' :: ·) ++ ['/'] ++ ['/'].intercalate (first :: others) =
      joinPath (directory ++ first :: others) false := by
    rw [List.append_assoc, List.singleton_append, cons_intercalate, ← List.flatMap_append,
      joinPath_eq_flatMap (by simp)]
  have walked := normalizePath_joinPath allNames false [] nofun
  rw [List.append_nil] at walked
  rw [resolve_relative noScheme (ofUrl?_fileScheme pageNames) plain, above, path, walked]
  rfl

end LinkSieve.Link
