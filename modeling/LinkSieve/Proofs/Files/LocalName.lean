import LinkSieve.Proofs.Files.Mirror
/-!
# The name of the file that is read

The URL of a local file is read twice: for the name that the file is saved under, and for the path of
the file itself. The one reading drops the query and the fragment and cuts the path into segments, and
only then undoes the escapes. The other one undoes the escapes of the whole text behind the scheme. The
two agree as far as the path goes, since a slash, a question mark and a number sign are part of no
escape and of no longer character. But the path that is read goes on with the query and the fragment,
as if they were part of the last name.
-/

namespace LinkSieve.Files

open LinkSieve.Link LinkSieve.Text LinkSieve.Text.Percent

/-- What is denoted can be read part by part, where a delimiter of URLs separates the parts. -/
theorem denotes_append_delimiter_iff {c : Char} (delimits : c ∈ '/' :: pathEnds)
    {first second text : List Char} :
    Denotes (first ++ c :: second) text ↔
      ∃ before after, Denotes first before ∧ Denotes second after ∧ text = before ++ c :: after := by
  have plain : c.toNat < 0x80 ∧ c ≠ '%' ∧ digit? c = none := by
    simp only [pathEnds, List.mem_cons, List.not_mem_nil, or_false] at delimits
    rcases delimits with rfl | rfl | rfl <;> decide
  exact denotes_append_cons_iff plain.1 plain.2.1 plain.2.2

/-- What is denoted is what the path denotes and then what the query and the fragment denote. -/
theorem exists_suffix_of_denotes {encoded text : List Char} (denotes : Denotes encoded text) :
    ∃ path suffix, Denotes (before pathEnds encoded) path ∧ Denotes (onward pathEnds encoded) suffix ∧
      text = path ++ suffix := by
  have whole := before_append_onward pathEnds encoded
  cases behind : onward pathEnds encoded with
  | nil =>
    rw [behind, List.append_nil] at whole
    rw [whole]
    exact ⟨text, [], denotes, denotes_escape [], (List.append_nil text).symm⟩
  | cons c rest =>
    have ends : c ∈ pathEnds := mem_of_mem_head?_onward (by rw [behind]; rfl)
    have delimits : c ∈ '/' :: pathEnds := List.mem_cons_of_mem _ ends
    rw [behind] at whole
    rw [← whole, denotes_append_delimiter_iff delimits] at denotes
    obtain ⟨path, suffix, pathDenotes, suffixDenotes, rfl⟩ := denotes
    have behindDenotes : Denotes ([] ++ c :: rest) (c :: suffix) :=
      (denotes_append_delimiter_iff delimits).mpr
        ⟨[], suffix, denotes_escape [], suffixDenotes, rfl⟩
    exact ⟨path, c :: suffix, pathDenotes, behindDenotes, rfl⟩

/-- The last segment of the URL of a local file, unless it is empty, stands after the last slash of what
is behind the scheme. -/
theorem exists_eq_append_lastSegment {rest : List Char}
    (nonempty : lastSegment (fileScheme ++ rest) ≠ []) :
    ∃ directory, before pathEnds rest = directory ++ '/' :: lastSegment (fileScheme ++ rest) := by
  by_cases member : '/' ∈ before pathEnds rest
  · rw [lastSegment_fileScheme member]
    obtain ⟨directory, last, split, noSlash⟩ := exists_eq_append_cons member
    rw [split, afterLast_append_cons noSlash]
    exact ⟨directory, rfl⟩
  · exact absurd (lastSegment_fileScheme_of_not_mem member) nonempty

/-- The path that is read from the URL of a local file has the name that the file is saved under as its
last name, as far as it stands before the query and the fragment. What is read goes on with what these
denote. So for a URL without them the name of the file is kept. In particular the path of a URL that was
made from a path is that path again. -/
theorem localPath_ends_in_fileName {url text name : List Char} (isLocal : fileScheme <+: url)
    (denotes : Denotes (url.drop fileScheme.length) text)
    (single : ∀ segment, Denotes (lastSegment url) segment → IsSingleName segment)
    (saved : fileName? url = some name) :
    ∃ path suffix, localPath url = .ok (String.ofList (path ++ suffix)) ∧
      localPath (before pathEnds url) = .ok (String.ofList path) ∧ afterLast '/' path = name ∧
      Denotes (onward pathEnds url) suffix ∧
      ∀ file, before pathEnds url = fileUrl file → path = file := by
  obtain ⟨rest, rfl⟩ := isLocal
  rw [List.drop_left] at denotes
  obtain ⟨path, suffix, pathDenotes, suffixDenotes, rfl⟩ := exists_suffix_of_denotes denotes
  obtain ⟨nonempty, -, decoded⟩ := fileName?_eq_some_iff.mp saved
  -- The last segment denotes what stands behind the last slash of the path.
  obtain ⟨directory, split⟩ := exists_eq_append_lastSegment nonempty
  have parts := pathDenotes
  rw [split, denotes_append_delimiter_iff List.mem_cons_self] at parts
  obtain ⟨above, segment, -, segmentDenotes, rfl⟩ := parts
  have alone : IsSingleName segment := single segment segmentDenotes
  have last : lastName (fileScheme ++ rest) = segment := segmentDenotes.decodeLenient_eq
  have same : segment = name := by
    rw [last] at decoded
    rcases decoded with ⟨-, same⟩ | ⟨several, -⟩
    · exact same
    · exact absurd alone several
  rw [before_append not_mem_pathEnds_of_mem_fileScheme,
    onward_append not_mem_pathEnds_of_mem_fileScheme]
  refine ⟨_, suffix, localPath_fileScheme denotes, localPath_fileScheme pathDenotes, ?_,
    suffixDenotes, ?_⟩
  · rw [afterLast_append_cons alone.noSlash, same]
  · intro file url
    rw [List.append_cancel_left url] at pathDenotes
    exact pathDenotes.unique (denotes_escape file)

/-- A file with a space in its directory and a character beyond ASCII in its name, with a query and a
fragment that have slashes. -/
theorem localPath_ends_in_fileName_query :
    let url := "file:///a%20b/%C3%A9.pdf?of=c/d#e/f".toList
    fileScheme <+: url ∧
      Denotes (url.drop fileScheme.length) "/a b/é.pdf?of=c/d#e/f".toList ∧
      (∀ segment, Denotes (lastSegment url) segment → IsSingleName segment) ∧
      fileName? url = some "é.pdf".toList ∧
      ∃ path suffix, localPath url = .ok (String.ofList (path ++ suffix)) ∧
        localPath (before pathEnds url) = .ok (String.ofList path) ∧
        afterLast '/' path = "é.pdf".toList ∧ Denotes (onward pathEnds url) suffix ∧
        ∀ file, before pathEnds url = fileUrl file → path = file := by
  intro url
  have isLocal : fileScheme <+: url := ⟨"/a%20b/%C3%A9.pdf?of=c/d#e/f".toList, rfl⟩
  have denotes : Denotes (url.drop fileScheme.length) "/a b/é.pdf?of=c/d#e/f".toList :=
    Utf8.decode_eq_ok_iff.mpr (by decide +kernel)
  have segment : Denotes (lastSegment url) "é.pdf".toList :=
    Utf8.decode_eq_ok_iff.mpr (by decide +kernel)
  have single : ∀ other, Denotes (lastSegment url) other → IsSingleName other := by
    intro other otherDenotes
    rw [otherDenotes.unique segment]
    exact ⟨by decide, by decide, by decide⟩
  have saved : fileName? url = some "é.pdf".toList := by decide +kernel
  exact ⟨isLocal, denotes, single, saved,
    localPath_ends_in_fileName isLocal denotes single saved⟩

/-- With a fragment, the last name of the path that is read is not the name that the file is saved under,
and another file is read than from the URL alone. -/
theorem localPath_keeps_fragment :
    (¬∀ (url text name path : List Char), fileScheme <+: url →
        Denotes (url.drop fileScheme.length) text →
        (∀ segment, Denotes (lastSegment url) segment → IsSingleName segment) →
        fileName? url = some name → localPath url = .ok (String.ofList path) →
        afterLast '/' path = name) ∧
      ¬∀ file suffix : List Char, file.head? = some '/' → (∀ c ∈ suffix.head?, c ∈ pathEnds) →
        localPath (fileUrl file ++ suffix) = localPath (fileUrl file) := by
  have denotes : Denotes "/a.pdf#page=2".toList "/a.pdf#page=2".toList :=
    Utf8.decode_eq_ok_iff.mpr (by decide +kernel)
  have segment : Denotes (lastSegment "file:///a.pdf#page=2".toList) "a.pdf".toList :=
    Utf8.decode_eq_ok_iff.mpr (by decide +kernel)
  have read : localPath "file:///a.pdf#page=2".toList = .ok "/a.pdf#page=2" :=
    localPath_fileScheme denotes
  constructor
  · intro agree
    have same : afterLast '/' "/a.pdf#page=2".toList = "a.pdf".toList := by
      apply agree "file:///a.pdf#page=2".toList "/a.pdf#page=2".toList
      · exact ⟨"/a.pdf#page=2".toList, rfl⟩
      · exact denotes
      · intro other otherDenotes
        rw [otherDenotes.unique segment]
        exact ⟨by decide, by decide, by decide⟩
      · decide +kernel
      · exact read
    exact absurd same (by decide)
  · intro agree
    have same := agree "/a.pdf".toList "#page=2".toList rfl (by simp [pathEnds])
    rw [localPath_fileUrl] at same
    have url : fileUrl "/a.pdf".toList ++ "#page=2".toList = "file:///a.pdf#page=2".toList := by decide
    rw [url, read] at same
    exact absurd (Except.ok.inj same) (by decide)

end LinkSieve.Files
