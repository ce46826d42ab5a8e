import LinkSieve.Proofs.Link.Site
/-!
# Walking from the directory of a page

A relative link is walked segment by segment from the directory of its page: a name goes down, a double
dot goes up unless it would go above the root, and a dot or nothing between two slashes stays. The path
that results has only names in it. So it is walked to itself, and a walk can pause wherever a slash
stands: the page's directory may be resolved first, and the link from there.

What a link says behind its path is not walked, whatever it looks like.
-/

namespace LinkSieve.Link

open LinkSieve.Text

/-- A path without detours: it begins with a slash, and its segments are names, but for nothing behind a
slash at its end. -/
structure IsClean (path : List Char) : Prop where
  slash : path.head? = some '/'
  names : ∀ segment ∈ (splitAt '/' path).tail.dropLast, IsFileName segment
  last : ∀ segment ∈ (splitAt '/' path).getLast?, segment = [] ∨ IsFileName segment

/-- How a segment leads on from a directory, which is given by its names from the root. -/
inductive LeadsOn (names : List (List Char)) : (segment : List Char) → List (List Char) → Prop where
  | slash : LeadsOn names [] names
  | dot : LeadsOn names ['.'] names
  | dots : LeadsOn names ['.', '.'] names.dropLast
  | name {segment : List Char} (fileName : IsFileName segment) :
      LeadsOn names segment (names ++ [segment])

/-- Where segments lead to, one after the other. -/
inductive Walks : (names segments reached : List (List Char)) → Prop where
  | done (names : List (List Char)) : Walks names [] names
  | step {names next reached rest : List (List Char)} {segment : List Char}
      (leads : LeadsOn names segment next) (walks : Walks next rest reached) :
      Walks names (segment :: rest) reached

/-- A name at the end of a walk was there at its beginning, or it is a segment on the way. -/
theorem Walks.mem {names segments reached : List (List Char)} (walks : Walks names segments reached)
    {name : List Char} (member : name ∈ reached) :
    name ∈ names ∨ name ∈ segments ∧ IsFileName name := by
  induction walks with
  | done names => exact Or.inl member
  | step leads walks inductionHypothesis =>
    rcases inductionHypothesis member with inNext | ⟨later, fileName⟩
    · cases leads with
      | slash => exact Or.inl inNext
      | dot => exact Or.inl inNext
      | dots => exact Or.inl ((List.dropLast_sublist _).subset inNext)
      | name fileName =>
        rcases List.mem_append.mp inNext with before | isSegment
        · exact Or.inl before
        · obtain rfl := List.mem_singleton.mp isSegment
          exact Or.inr ⟨List.mem_cons_self, fileName⟩
    · exact Or.inr ⟨List.mem_cons_of_mem _ later, fileName⟩

/-- The names that `walk` has walked lead on along its segments. It holds them with the last one
first. -/
theorem walks_walk {segments : List (List Char)} (noSlash : ∀ segment ∈ segments, '/' ∉ segment)
    (walked : List (List Char)) : Walks walked.reverse segments (walk walked segments) := by
  induction segments generalizing walked with
  | nil => exact .done _
  | cons segment rest inductionHypothesis =>
    obtain ⟨free, others⟩ := List.forall_mem_cons.mp noSlash
    rw [walk]
    split
    next stays =>
      rcases stays with rfl | rfl
      · exact .step .slash (inductionHypothesis others walked)
      · exact .step .dot (inductionHypothesis others walked)
    next goes =>
      obtain ⟨nonempty, noDot⟩ := not_or.mp goes
      split
      next same =>
        have up : (walked.drop 1).reverse = walked.reverse.dropLast := by simp
        have leads : LeadsOn walked.reverse segment (walked.drop 1).reverse := by
          rw [same, up]
          exact .dots
        exact .step leads (inductionHypothesis others _)
      next noDots =>
        have leads : LeadsOn walked.reverse segment (segment :: walked).reverse := by
          rw [List.reverse_cons]
          exact .name ⟨nonempty, free, noDot, noDots⟩
        exact .step leads (inductionHypothesis others _)

/-- A path of names is clean. -/
theorem isClean_joinPath {names : List (List Char)} (fileNames : ∀ name ∈ names, IsFileName name)
    (directory : Bool) : IsClean (joinPath names directory) := by
  have segments := splitAt_joinPath (fun name member => (fileNames name member).noSlash) directory
  constructor
  · obtain ⟨rest, begins⟩ := exists_joinPath_eq_cons names directory
    rw [begins, List.head?_cons]
  · rw [segments, List.tail_cons]
    intro segment member
    split at member
    next =>
      rw [List.dropLast_concat] at member
      exact fileNames segment member
    next =>
      rw [List.append_nil] at member
      exact fileNames segment ((List.dropLast_sublist _).subset member)
  · intro segment last
    have member := List.mem_of_mem_getLast? last
    rw [segments, List.mem_cons, List.mem_append] at member
    rcases member with first | isName | atEnd
    · exact Or.inl first
    · exact Or.inr (fileNames segment isName)
    · split at atEnd
      next => exact Or.inl (List.mem_singleton.mp atEnd)
      next => cases atEnd

/-- The names that are left of a path are those that its segments lead to from the root. -/
theorem walks_splitAt (path : List Char) :
    Walks [] (splitAt '/' path) (walk [] (splitAt '/' path)) :=
  walks_walk (fun _ => not_mem_of_mem_splitAt) []

/-- They can stand in the path of a URL, if nothing would end it. -/
theorem isUrlName_walk {path : List Char} (noEnds : ∀ c ∈ path, c ∉ pathEnds) :
    ∀ name ∈ walk [] (splitAt '/' path), IsUrlName name := by
  intro name member
  rcases (walks_splitAt path).mem member with fromNowhere | ⟨isSegment, fileName⟩
  · cases fromNowhere
  · exact ⟨fileName, fun c inName => noEnds c (mem_of_mem_splitAt isSegment inName)⟩

/-- A path that was normalized stays as it is. -/
theorem normalizePath_normalizePath (text : List Char) :
    normalizePath (normalizePath text) = normalizePath text := by
  have noEnds : ∀ c ∈ before pathEnds text, c ∉ pathEnds := fun c => not_mem_of_mem_before
  exact normalizePath_joinPath (isUrlName_walk noEnds) _ _ fun c => mem_of_mem_head?_onward

/-- From the slash at the end of a directory the walk goes on as from the directory's names. -/
theorem normalizePath_directory {front : List Char} (free : ∀ c ∈ front, c ∉ pathEnds)
    (link : List Char) :
    normalizePath (front ++ '/' :: link) =
      joinPath (walk (walk [] (splitAt '/' front)).reverse (splitAt '/' (before pathEnds link)))
        (namesDirectory ('/' :: before pathEnds link)) ++ onward pathEnds link := by
  have slash : '/' ∉ pathEnds := by decide
  have freeSlash : ∀ c ∈ front ++ ['/'], c ∉ pathEnds := by
    intro c member
    rcases List.mem_append.mp member with inFront | isSlash
    · exact free c inFront
    · rw [List.mem_singleton.mp isSlash]
      exact slash
  rw [List.append_cons, normalizePath, before_append freeSlash, onward_append freeSlash,
    ← List.append_cons, splitAt_append_cons, walk_append, namesDirectory_append_slash]

section Base

variable {page : List Char} {base : Base}

/-- The path of a page has nothing that would end it. -/
theorem Base.noEnds_path (parts : Base.ofUrl? page = some base) : ∀ c ∈ base.path, c ∉ pathEnds := by
  unfold Base.ofUrl? at parts
  obtain ⟨⟨scheme, rest⟩, -, same⟩ := Option.bind_eq_some_iff.mp parts
  cases same
  exact fun c => not_mem_of_mem_before

/-- The directory of a page ends in a slash, and nothing before it would end the path. -/
theorem Base.exists_directory_eq (parts : Base.ofUrl? page = some base) :
    ∃ front, base.directory = front ++ ['/'] ∧ ∀ c ∈ front, c ∉ pathEnds := by
  have noEnds := noEnds_path parts
  unfold Base.directory
  split
  next slash =>
    obtain ⟨front, behind, same, free⟩ := exists_eq_append_cons (List.contains_iff_mem.mp slash)
    refine ⟨front, ?_, ?_⟩
    · rw [same, throughLast_append_cons free]
    · intro c member
      exact noEnds c (by rw [same]; exact List.mem_append_left _ member)
  next => exact ⟨[], rfl, nofun⟩

/-- What continues the site of a page is read as a path on that site. -/
theorem Base.ofUrl?_site_append (parts : Base.ofUrl? page = some base) {rest : List Char}
    (ends : ∀ c ∈ rest.head?, c ∈ authorityEnds) :
    Base.ofUrl? (base.site ++ rest) = some { base with path := before pathEnds rest } := by
  unfold Base.ofUrl? at parts
  obtain ⟨⟨scheme, behind⟩, cut, same⟩ := Option.bind_eq_some_iff.mp parts
  cases same
  have noEnd : ∀ c ∈ before authorityEnds behind, c ∉ authorityEnds := fun c =>
    not_mem_of_mem_before
  have again := cutAt?_replace (by decide) cut (before authorityEnds behind ++ rest)
  simp only [authorityEnds] at noEnd ends again
  simp only [Base.ofUrl?, Base.site, Base.root, List.append_assoc, again]
  simp [before_append noEnd, onward_append noEnd, before_eq_nil ends, onward_eq_self ends]

/-- A path of names on the site of a page is read as that path, whatever follows it. -/
theorem Base.ofUrl?_site_joinPath (parts : Base.ofUrl? page = some base) {names : List (List Char)}
    (urlNames : ∀ name ∈ names, IsUrlName name) (directory : Bool) (suffix : List Char)
    (ends : ∀ c ∈ suffix.head?, c ∈ pathEnds) :
    Base.ofUrl? (base.site ++ (joinPath names directory ++ suffix)) =
      some { base with path := joinPath names directory } := by
  have noEnds := not_mem_pathEnds_of_mem_joinPath (fun name member => (urlNames name member).noEnd)
    directory
  have continues : ∀ c ∈ (joinPath names directory ++ suffix).head?, c ∈ authorityEnds := by
    obtain ⟨rest, begins⟩ := exists_joinPath_eq_cons names directory
    rw [begins]
    exact continues_cons (by decide) _
  rw [ofUrl?_site_append parts continues, before_append noEnds, before_eq_nil ends, List.append_nil]

/-- A relative link leads to the names that it is walked to from the directory of its page. -/
theorem exists_resolve_eq_joinPath {link : List Char} (parts : Base.ofUrl? page = some base)
    (noScheme : hasScheme link = false) (plain : ∀ c ∈ link.head?, c ≠ '/' ∧ c ∉ pathEnds) :
    ∃ names directory, (∀ name ∈ names, IsUrlName name) ∧
      Walks [] (splitAt '/' (base.directory ++ before pathEnds link)) names ∧
      resolve page link = base.site ++ (joinPath names directory ++ onward pathEnds link) := by
  obtain ⟨front, above, free⟩ := Base.exists_directory_eq parts
  have freeDirectory : ∀ c ∈ base.directory, c ∉ pathEnds := by
    rw [above]
    exact List.forall_mem_append.mpr ⟨free, List.forall_mem_singleton.mpr (by decide)⟩
  have noEnds : ∀ c ∈ base.directory ++ before pathEnds link, c ∉ pathEnds :=
    List.forall_mem_append.mpr ⟨freeDirectory, fun c => not_mem_of_mem_before⟩
  refine ⟨_, namesDirectory (base.directory ++ before pathEnds link), isUrlName_walk noEnds,
    walks_splitAt _, ?_⟩
  rw [resolve_relative noScheme parts plain, normalizePath, before_append freeDirectory,
    onward_append freeDirectory]

/-- The directory of a page is resolved to the names that lead to it. -/
theorem resolve_dot (parts : Base.ofUrl? page = some base) {front : List Char}
    (above : base.directory = front ++ ['/']) (free : ∀ c ∈ front, c ∉ pathEnds) :
    resolve page ['.'] = base.site ++ (joinPath (walk [] (splitAt '/' front)) true ++ []) := by
  have dot : before pathEnds ['.'] = ['.'] := by decide
  have nothing : onward pathEnds ['.'] = [] := by decide
  have segments : splitAt '/' ['.'] = [['.']] := by decide
  have directory : namesDirectory ['/', '.'] = true := by decide
  rw [resolve_relative (by decide) parts (by simp [pathEnds]), above, List.append_assoc,
    List.singleton_append, normalizePath_directory free, dot, nothing, segments, directory]
  simp [walk]

/-- A link may be resolved from the directory of its page. The walk from there begins with the names
that lead to the directory, which is where the walk from the page pauses. -/
theorem resolve_resolve_dot {link : List Char} (parts : Base.ofUrl? page = some base)
    (noScheme : hasScheme link = false) (plain : ∀ c ∈ link.head?, c ≠ '/' ∧ c ∉ pathEnds) :
    resolve (resolve page ['.']) link = resolve page link := by
  obtain ⟨front, above, free⟩ := Base.exists_directory_eq parts
  have urlNames := isUrlName_walk free
  have dot := resolve_dot parts above free
  generalize pause : walk [] (splitAt '/' front) = names at urlNames dot
  have fileNames : ∀ name ∈ names, IsFileName name := fun name member =>
    (urlNames name member).toIsFileName
  have noEnds : ∀ c ∈ names.flatMap ('/' :: ·), c ∉ pathEnds := by
    intro c member
    apply not_mem_pathEnds_of_mem_joinPath (fun name member => (urlNames name member).noEnd) true
    rw [joinPath_directory]
    exact List.mem_append_left _ member
  have again : walk [] (splitAt '/' (names.flatMap ('/' :: ·))) = names := by
    rw [splitAt_flatMap fun name member => (fileNames name member).noSlash, walk,
      if_pos (Or.inl rfl), walk_names fileNames]
    rfl
  have there := Base.ofUrl?_site_joinPath parts urlNames true [] (by simp)
  have same : Base.directory { base with path := joinPath names true } =
      names.flatMap ('/' :: ·) ++ ['/'] := by
    rw [Base.directory, joinPath_directory, if_pos (by simp)]
    exact throughLast_append_cons List.not_mem_nil _
  rw [← dot] at there
  rw [resolve_relative noScheme there plain, resolve_relative noScheme parts plain, same, above,
    List.append_assoc, List.append_assoc, List.singleton_append, normalizePath_directory noEnds,
    normalizePath_directory free, pause, again]
  rfl

end Base

/-- A relative link on a page is walked from the page's directory. The result is on the site of the
page; its path is clean, and its names are those that the segments of the directory and of the link lead
to; and what stands behind the path of the link stands behind the path of the result. So nothing is
changed if the directory is resolved first, and a path that was normalized stays as it is. -/
theorem resolve_walks {page link : List Char} (separated : "://".toList <:+: page)
    (noScheme : ¬BeginsWithScheme link) (plain : ∀ c ∈ link.head?, c ≠ '/' ∧ c ∉ pathEnds) :
    (∃ base path, Base.ofUrl? page = some base ∧
      Base.ofUrl? (resolve page link) = some { base with path } ∧
      IsClean path ∧
      Walks [] (splitAt '/' (base.directory ++ before pathEnds link))
        ((splitAt '/' path).filter (· ≠ [])) ∧
      resolve page link = base.site ++ path ++ onward pathEnds link) ∧
    resolve (resolve page ['.']) link = resolve page link ∧
    ∀ text, normalizePath (normalizePath text) = normalizePath text := by
  rw [← hasScheme_eq_true_iff, Bool.not_eq_true] at noScheme
  obtain ⟨base, parts⟩ : ∃ base, Base.ofUrl? page = some base := by
    obtain ⟨⟨scheme, rest⟩, cut⟩ := exists_cutAt?_eq_some (by decide) separated
    rw [Base.ofUrl?, cut]
    exact ⟨_, rfl⟩
  refine ⟨?_, resolve_resolve_dot parts noScheme plain, normalizePath_normalizePath⟩
  obtain ⟨names, directory, urlNames, walks, url⟩ := exists_resolve_eq_joinPath parts noScheme plain
  have fileNames : ∀ name ∈ names, IsFileName name := fun name member =>
    (urlNames name member).toIsFileName
  refine ⟨base, joinPath names directory, parts, ?_, isClean_joinPath fileNames directory, ?_, ?_⟩
  · rw [url]
    exact Base.ofUrl?_site_joinPath parts urlNames directory _ fun c => mem_of_mem_head?_onward
  · rw [filter_splitAt_joinPath fileNames]
    exact walks
  · rw [url, List.append_assoc]

/-- A link that would climb above the root, and that looks like a path behind its question mark. -/
theorem resolve_walks_above_root :
    let page := "http://h/a/./b//c.html?p=/".toList
    let link := "./../../../x/./y/?q=/../z".toList
    "://".toList <:+: page ∧ ¬BeginsWithScheme link ∧
      (∀ c ∈ link.head?, c ≠ '/' ∧ c ∉ pathEnds) ∧
      (∃ path, Base.ofUrl? (resolve page link) = some ⟨"http".toList, "h".toList, path⟩ ∧
        IsClean path) ∧
      resolve (resolve page ['.']) link = "http://h/x/y/?q=/../z".toList := by
  intro page link
  have separated : "://".toList <:+: page :=
    ⟨"http".toList, "h/a/./b//c.html?p=/".toList, by decide⟩
  have noScheme : ¬BeginsWithScheme link := by
    rw [← hasScheme_eq_true_iff]
    decide
  have plain : ∀ c ∈ link.head?, c ≠ '/' ∧ c ∉ pathEnds := by simp [link, pathEnds]
  obtain ⟨⟨base, path, parts, read, isClean, -, -⟩, again, -⟩ :=
    resolve_walks separated noScheme plain
  have known : Base.ofUrl? page = some ⟨"http".toList, "h".toList, "/a/./b//c.html".toList⟩ := by
    decide
  rw [known] at parts
  cases parts
  have url : resolve page link = "http://h/x/y/?q=/../z".toList := by decide
  exact ⟨separated, noScheme, plain, ⟨path, read, isClean⟩, again.trans url⟩

end LinkSieve.Link
