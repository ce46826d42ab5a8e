import LinkSieve.Proofs.Files.Local
import LinkSieve.Proofs.Link.Resolve
import LinkSieve.Proofs.Link.Scheme
import LinkSieve.Proofs.Text.Percent
/-!
# Links of mirrored pages

A page that was mirrored to this machine links to the files beside it and below it by their paths,
with escapes. Such a link reaches exactly the file that it means: the page's URL, the resolved link and
the path that is read from it all speak of the same places, and the file keeps its name. For this,
escapes have to cover whatever a URL gives a meaning to, and nothing on the way may undo or repeat
them.
-/

namespace LinkSieve.Files

open LinkSieve.Link LinkSieve.Text LinkSieve.Text.Percent

/-- A file name with escapes can stand in the path of a URL. It is no dot segment, since only dot
segments are escaped to them. -/
theorem isUrlName_escape {name : List Char} (fileName : IsFileName name) :
    IsUrlName (escape name) where
  nonempty empty := fileName.nonempty (escape_injective empty)
  noSlash member := fileName.noSlash (slash_mem_of_mem_escape member)
  noDot dot := fileName.noDot (escape_injective dot)
  noDots dots := fileName.noDots (escape_injective dots)
  noEnd := by
    intro c member ends
    exact not_mem_escape (by simpa [pathEnds] using ends) name member

/-- A path is escaped name by name. -/
theorem escape_flatMap (names : List (List Char)) :
    escape (names.flatMap ('/' :: ·)) = (names.map escape).flatMap ('/' :: ·) := by
  induction names with
  | nil => rfl
  | cons name names inductionHypothesis =>
    rw [List.flatMap_cons, escape_append, inductionHypothesis]
    rfl

/-- A relative path is escaped name by name. -/
theorem escape_intercalate (names : List (List Char)) :
    escape (['/'].intercalate names) = ['/'].intercalate (names.map escape) := by
  cases names with
  | nil => rfl
  | cons first others =>
    have path : '/' :: escape (['/'].intercalate (first :: others)) =
        '/' :: ['/'].intercalate ((first :: others).map escape) := by
      rw [List.map_cons, cons_intercalate, ← List.map_cons, ← escape_flatMap, ← cons_intercalate]
      rfl
    exact (List.cons.inj path).2

/-- The URL of a place has its names with escapes. -/
theorem fileUrl_absolute (place : Place) :
    fileUrl (Tree.absolute place).toList =
      fileScheme ++ joinPath (place.map fun name => escape name.toList) false := by
  have path : escape (joinPath (place.map String.toList) false) =
      joinPath (place.map fun name => escape name.toList) false := by
    cases place with
    | nil => rfl
    | cons first others =>
      rw [joinPath_eq_flatMap (by simp), joinPath_eq_flatMap (by simp), escape_flatMap, List.map_map]
      rfl
  rw [Tree.toList_absolute, fileUrl]
  exact congrArg (fileScheme ++ ·) path

/-- From the URL of a local file the path is read that stands behind the scheme. -/
theorem localPath_fileScheme {encoded path : List Char} (denotes : Denotes encoded path) :
    localPath (fileScheme ++ encoded) = .ok (String.ofList path) := by
  have begins : fileScheme.isPrefixOf (fileScheme ++ encoded) = true :=
    List.isPrefixOf_iff_prefix.mpr (List.prefix_append _ _)
  rw [Denotes] at denotes
  unfold localPath
  dsimp only
  rw [if_pos begins, List.drop_left, denotes]

/-- From the URL of a file its path is read. -/
theorem localPath_fileUrl (path : List Char) :
    localPath (fileUrl path) = .ok (String.ofList path) :=
  localPath_fileScheme (denotes_escape path)

/-- The file of a URL is saved under its own name, unless the name has a backslash. -/
theorem fileName?_fileUrl {directory : Place} {name : String} (named : IsNamed (directory ++ [name]))
    (noBackslash : '\\' ∉ name.toList) :
    fileName? (fileUrl (Tree.absolute (directory ++ [name])).toList) = some name.toList := by
  have fileName : IsFileName name.toList := named name (by simp)
  have urlName := isUrlName_escape fileName
  have urlNames : ∀ other ∈ directory.map (fun name => escape name.toList) ++
      [escape name.toList], IsUrlName other := by
    have escaped := List.forall_mem_map.mpr fun other member => isUrlName_escape (named other member)
    rwa [List.map_append] at escaped
  have raw : lastSegment (fileUrl (Tree.absolute (directory ++ [name])).toList) =
      escape name.toList := by
    rw [fileUrl_absolute, List.map_append]
    exact lastSegment_joinPath urlNames
  have decoded : lastName (fileUrl (Tree.absolute (directory ++ [name])).toList) = name.toList := by
    rw [lastName, raw]
    exact (denotes_escape _).decodeLenient_eq
  have single : IsSingleName name.toList :=
    ⟨by simp [isDotSegment, fileName.noDot, fileName.noDots], fileName.noSlash, noBackslash⟩
  rw [fileName?_eq_some_iff, raw, decoded]
  refine ⟨urlName.nonempty, ?_, Or.inl ⟨single, rfl⟩⟩
  simp [isDotSegment, urlName.noDot, urlName.noDots]

/-- A relative link of file names, with escapes and without the look of a scheme, reaches the file
that it means. Resolved on the page of a directory, it is the URL of the file along its names from
the directory; the path that is read from this URL is exactly that of the file; and the file is saved
under its own name, unless this has a backslash. -/
theorem resolve_sibling {directory relative : Place} {page : String}
    (pageNamed : IsNamed (directory ++ [page])) (named : IsNamed relative) (nonempty : relative ≠ [])
    (noScheme : ¬BeginsWithScheme (escape ("/".intercalate relative).toList)) :
    let link := escape ("/".intercalate relative).toList
    let file := Tree.absolute (directory ++ relative)
    resolve (fileUrl (Tree.absolute (directory ++ [page])).toList) link = fileUrl file.toList ∧
      localPath (fileUrl file.toList) = .ok file ∧
      ∀ name ∈ relative.getLast?, '\\' ∉ name.toList →
        fileName? (fileUrl file.toList) = some name.toList := by
  intro link file
  have escaped {place : Place} (placeNamed : IsNamed place) :
      ∀ name ∈ place.map fun name => escape name.toList, IsUrlName name :=
    List.forall_mem_map.mpr fun name member => isUrlName_escape (placeNamed name member)
  have names : link = ['/'].intercalate (relative.map fun name => escape name.toList) := by
    have slash : "/".toList = ['/'] := rfl
    change escape ("/".intercalate relative).toList = _
    rw [String.toList_intercalate, slash, escape_intercalate, List.map_map]
    rfl
  refine ⟨?_, ?_, ?_⟩
  · have relativeLink : hasScheme link = false := by
      rw [← hasScheme_eq_true_iff, Bool.not_eq_true] at noScheme
      exact noScheme
    have pageNames := escaped pageNamed
    rw [List.map_append] at pageNames
    rw [names] at relativeLink ⊢
    rw [fileUrl_absolute, fileUrl_absolute, List.map_append, List.map_append]
    exact resolve_names pageNames (escaped named) (by simpa using nonempty) relativeLink
  · rw [localPath_fileUrl, String.ofList_toList]
  · intro name last noBackslash
    obtain ⟨others, rfl⟩ := List.getLast?_eq_some_iff.mp last
    have fileNamed : IsNamed (directory ++ others ++ [name]) := by
      rw [List.append_assoc]
      exact List.forall_mem_append.mpr ⟨(List.forall_mem_append.mp pageNamed).1, named⟩
    have kept := fileName?_fileUrl fileNamed noBackslash
    rwa [List.append_assoc] at kept

/-- A link below a directory, with characters that delimit parts of a URL, with what looks like an
escape, and with characters beyond ASCII. -/
theorem resolve_sibling_escaped :
    let directory : Place := ["was?"]
    let relative : Place := ["Nr. 1", "50%20 é.pdf"]
    IsNamed (directory ++ ["#.html"]) ∧ IsNamed relative ∧ relative ≠ [] ∧
      ¬BeginsWithScheme (escape ("/".intercalate relative).toList) ∧
      resolve "file:///was%3F/%23.html".toList "Nr.%201/50%2520%20%C3%A9.pdf".toList =
        "file:///was%3F/Nr.%201/50%2520%20%C3%A9.pdf".toList ∧
      localPath "file:///was%3F/Nr.%201/50%2520%20%C3%A9.pdf".toList =
        .ok "/was?/Nr. 1/50%20 é.pdf" ∧
      fileName? "file:///was%3F/Nr.%201/50%2520%20%C3%A9.pdf".toList =
        some "50%20 é.pdf".toList := by
  intro directory relative
  have pageNamed : IsNamed (directory ++ ["#.html"]) := by decide
  have named : IsNamed relative := by decide
  have nonempty : relative ≠ [] := by decide
  have noScheme : ¬BeginsWithScheme (escape ("/".intercalate relative).toList) := by
    rw [← hasScheme_eq_true_iff]
    decide
  obtain ⟨resolved, read, saved⟩ := resolve_sibling pageNamed named nonempty noScheme
  have page : fileUrl (Tree.absolute (directory ++ ["#.html"])).toList =
      "file:///was%3F/%23.html".toList := by decide
  have link : escape ("/".intercalate relative).toList =
      "Nr.%201/50%2520%20%C3%A9.pdf".toList := by decide
  have file : Tree.absolute (directory ++ relative) = "/was?/Nr. 1/50%20 é.pdf" := by decide
  have url : fileUrl (Tree.absolute (directory ++ relative)).toList =
      "file:///was%3F/Nr.%201/50%2520%20%C3%A9.pdf".toList := by decide
  rw [page, link, url] at resolved
  rw [url, file] at read
  rw [url] at saved
  exact ⟨pageNamed, named, nonempty, noScheme, resolved, read, saved _ rfl (by decide)⟩

end LinkSieve.Files
