import LinkSieve.Proofs.Link.Resolve
import LinkSieve.Proofs.Link.Scheme
/-!
# The site of a link

A URL is on a site if it begins with a scheme, two slashes, and the authority of the site. Every base
is on a site, and a link that names neither a scheme nor an authority stays on it, whatever segments,
queries and fragments the link has. So a link is always resolved to an absolute URL, and an absolute
URL is resolved to itself.
-/

namespace LinkSieve.Link

open LinkSieve.Text

/-- The characters that end an authority. -/
def authorityEnds : List Char := '/' :: pathEnds

/-- A URL that begins with a scheme and an authority. The authority is what stands behind the first
colon with two slashes, up to the first slash, question mark or number sign. -/
structure IsOnSite (scheme authority url : List Char) : Prop where
  isSchemeName : IsSchemeName scheme
  noEnd : ∀ c ∈ authority, c ∉ authorityEnds
  continues : ∃ rest, url = scheme ++ "://".toList ++ authority ++ rest ∧
    ∀ c ∈ rest.head?, c ∈ authorityEnds

/-- Two texts that continue an authority do so one after the other. -/
theorem continues_append {first second : List Char}
    (firstEnds : ∀ c ∈ first.head?, c ∈ authorityEnds)
    (secondEnds : ∀ c ∈ second.head?, c ∈ authorityEnds) :
    ∀ c ∈ (first ++ second).head?, c ∈ authorityEnds := by
  cases first with
  | nil => exact secondEnds
  | cons c rest => exact firstEnds

/-- A text that begins with a character that ends an authority continues it. -/
theorem continues_cons {first : Char} (ends : first ∈ authorityEnds) (rest : List Char) :
    ∀ c ∈ (first :: rest).head?, c ∈ authorityEnds := by
  rintro c ⟨⟩
  exact ends

/-- A text is a URL on a site if it begins with the name of a scheme, a colon and two slashes. -/
theorem isOnSite_of_scheme {scheme : List Char} (isName : IsSchemeName scheme) (rest : List Char) :
    IsOnSite scheme (before authorityEnds rest) (scheme ++ "://".toList ++ rest) where
  isSchemeName := isName
  noEnd _ member := not_mem_of_mem_before member
  continues := by
    refine ⟨onward authorityEnds rest, ?_, fun c => mem_of_mem_head?_onward⟩
    rw [List.append_assoc _ (before _ _), before_append_onward]

/-- A text that begins with the name of a scheme, a colon and two slashes has a scheme, and it is not
completed. -/
theorem ensureScheme_of_scheme {scheme : List Char} (isName : IsSchemeName scheme)
    (rest : List Char) :
    hasScheme (scheme ++ "://".toList ++ rest) = true ∧
      ensureScheme (scheme ++ "://".toList ++ rest) = scheme ++ "://".toList ++ rest := by
  have slashes : scheme ++ "://".toList ++ rest = scheme ++ ':' :: '/' :: '/' :: rest := by
    rw [List.append_assoc]
    rfl
  have found := scheme?_eq_some_iff.mpr ⟨scheme, isName, rfl, slashes⟩
  constructor
  · rw [hasScheme, found, Option.isSome_some]
  · simp only [ensureScheme, found]

/-- A completed text begins with a scheme and two slashes. -/
theorem exists_scheme_of_ensureScheme (text : List Char) :
    ∃ scheme rest, IsSchemeName scheme ∧ ensureScheme text = scheme ++ "://".toList ++ rest := by
  unfold ensureScheme
  split
  next rest found =>
    obtain ⟨name, isName, -, same⟩ := scheme?_eq_some_iff.mp found
    exact ⟨name, rest, isName, by rw [same, List.append_assoc]; rfl⟩
  next =>
    have schemeChars : ['t', 't', 'p'].all isSchemeChar = true := by decide
    have isName : IsSchemeName "http".toList :=
      isSchemeName_cons_iff.mpr ⟨by decide, List.all_eq_true.mp schemeChars⟩
    exact ⟨"http".toList, text, isName, rfl⟩

namespace IsOnSite

variable {scheme authority page link : List Char}

/-- A URL on a site begins with a scheme. -/
theorem hasScheme (site : IsOnSite scheme authority page) : hasScheme page = true := by
  obtain ⟨rest, same, -⟩ := site.continues
  rw [same, List.append_assoc _ authority]
  exact (ensureScheme_of_scheme site.isSchemeName _).1

/-- The parts of a page's URL are those of its site, and its path, which begins with a slash unless
it is empty. -/
theorem ofUrl? (site : IsOnSite scheme authority page) :
    ∃ path, Base.ofUrl? page = some ⟨scheme, authority, path⟩ ∧ ∀ c ∈ path.head?, c = '/' := by
  obtain ⟨rest, rfl, ends⟩ := site.continues
  have noColon : ':' ∉ scheme := fun member => by
    simpa [isSchemeChar] using site.isSchemeName.isSchemeChar ':' member
  have cut : cutAt? "://".toList (scheme ++ "://".toList ++ authority ++ rest) =
      some (scheme, authority ++ rest) := by
    rw [List.append_assoc, List.append_assoc]
    exact cutAt?_append noColon ['/', '/'] (authority ++ rest)
  refine ⟨before pathEnds rest, ?_, ?_⟩
  · have noEnd := site.noEnd
    simp only [authorityEnds] at noEnd ends
    rw [Base.ofUrl?, cut]
    simp [before_append noEnd, onward_append noEnd, before_eq_nil ends, onward_eq_self ends]
  · intro c head
    have first : c ∈ authorityEnds := ends c (mem_head?_of_mem_head?_before head)
    have noPathEnd : c ∉ pathEnds := not_mem_of_mem_before (List.mem_of_mem_head? head)
    exact (List.mem_cons.mp first).resolve_right noPathEnd

/-- No URL is on two sites. -/
theorem unique (site : IsOnSite scheme authority page) {otherScheme otherAuthority : List Char}
    (other : IsOnSite otherScheme otherAuthority page) :
    scheme = otherScheme ∧ authority = otherAuthority := by
  obtain ⟨_, parts, -⟩ := site.ofUrl?
  obtain ⟨_, otherParts, -⟩ := other.ofUrl?
  rw [parts] at otherParts
  obtain ⟨sameScheme, sameAuthority, -⟩ := Base.mk.inj (Option.some.inj otherParts)
  exact ⟨sameScheme, sameAuthority⟩

/-- A text is on a site if it continues the authority of the site with a character that ends it. -/
theorem of_continues (site : IsOnSite scheme authority page) {rest : List Char}
    (ends : ∀ c ∈ rest.head?, c ∈ authorityEnds) :
    IsOnSite scheme authority (scheme ++ "://".toList ++ authority ++ rest) :=
  ⟨site.isSchemeName, site.noEnd, rest, rfl, ends⟩

/-- What stands before the fragment of a URL on a site continues the authority as well. -/
theorem before_fragment (site : IsOnSite scheme authority page) :
    ∃ rest, before ['#'] page = scheme ++ "://".toList ++ authority ++ rest ∧
      ∀ c ∈ rest.head?, c ∈ authorityEnds := by
  obtain ⟨rest, rfl, ends⟩ := site.continues
  have free : ∀ c ∈ scheme ++ "://".toList ++ authority, c ∉ ['#'] := by
    intro c member number
    rw [List.mem_singleton.mp number] at member
    rcases List.mem_append.mp member with inRoot | inAuthority
    · rcases List.mem_append.mp inRoot with inScheme | inSlashes
      · simpa [isSchemeChar] using site.isSchemeName.isSchemeChar '#' inScheme
      · exact absurd inSlashes (by decide)
    · exact site.noEnd '#' inAuthority (by decide)
  exact ⟨before ['#'] rest, before_append free rest, fun c head =>
    ends c (mem_head?_of_mem_head?_before head)⟩

/-- A link that names neither a scheme nor an authority stays on the site of its page. There is one
case for each way in which such a link begins. -/
theorem resolve (site : IsOnSite scheme authority page) (noScheme : Link.hasScheme link = false)
    (noAuthority : ¬['/', '/'] <+: link) : IsOnSite scheme authority (resolve page link) := by
  obtain ⟨path, parts, pathHead⟩ := site.ofUrl?
  rw [Link.resolve, noScheme, if_neg Bool.false_ne_true, parts]
  dsimp only
  split
  next rest => exact absurd ⟨rest, rfl⟩ noAuthority
  next rest _ => exact site.of_continues (continues_cons (by decide) rest)
  next rest =>
    have pathEnds : ∀ c ∈ path.head?, c ∈ authorityEnds := by
      intro c head
      rw [pathHead c head]
      decide
    rw [List.append_assoc]
    exact site.of_continues (continues_append pathEnds (continues_cons (by decide) rest))
  next rest =>
    obtain ⟨kept, same, ends⟩ := site.before_fragment
    rw [same, List.append_assoc]
    exact site.of_continues (continues_append ends (continues_cons (by decide) rest))
  next =>
    let text := Base.directory ⟨scheme, authority, path⟩ ++ link
    obtain ⟨rest, begins⟩ := exists_joinPath_eq_cons (walk [] (splitAt '/' (before pathEnds text)))
      (namesDirectory (before pathEnds text))
    have slash : normalizePath text = '/' :: (rest ++ onward pathEnds text) := by
      rw [normalizePath, begins, List.cons_append]
    rw [slash]
    exact site.of_continues (continues_cons (by decide) _)

end IsOnSite

/-- A link without a scheme gets one from its page. -/
theorem hasScheme_resolve {scheme authority page : List Char}
    (site : IsOnSite scheme authority page) (link : List Char) :
    hasScheme (resolve page link) = true := by
  cases own : hasScheme link with
  | true => rw [resolve, own, if_pos rfl, own]
  | false =>
    by_cases named : ['/', '/'] <+: link
    · obtain ⟨rest, rfl⟩ := named
      obtain ⟨path, parts, -⟩ := site.ofUrl?
      have replaced : resolve page (['/', '/'] ++ rest) = scheme ++ "://".toList ++ rest := by
        rw [resolve, own, if_neg Bool.false_ne_true, parts]
        rfl
      rw [replaced]
      exact (ensureScheme_of_scheme site.isSchemeName rest).1
    · exact (site.resolve own named).hasScheme

/-- Resolving a link on a completed base always gives an absolute URL, which stays the same on every
page, and it cannot lead to another site. Completing a base a second time changes nothing. The result
begins with a scheme, so that it is resolved to itself. And a link that has no scheme and does not
begin with two slashes leads to a URL with the scheme and the authority of the base. -/
theorem resolve_stays_on_site (text link : List Char) :
    let base := ensureScheme text
    let url := resolve base link
    ensureScheme base = base ∧
      BeginsWithScheme url ∧
      (∀ page, resolve page url = url) ∧
      ∃ scheme authority, IsOnSite scheme authority base ∧
        (¬BeginsWithScheme link → ¬['/', '/'] <+: link → IsOnSite scheme authority url) := by
  intro base url
  obtain ⟨scheme, rest, isName, completed⟩ := exists_scheme_of_ensureScheme text
  have site : IsOnSite scheme (before authorityEnds rest) base := by
    rw [show base = _ from completed]
    exact isOnSite_of_scheme isName rest
  have absolute : hasScheme url = true := hasScheme_resolve site link
  refine ⟨?_, (hasScheme_eq_true_iff url).mp absolute, ?_, scheme, _, site, ?_⟩
  · rw [show base = _ from completed]
    exact (ensureScheme_of_scheme isName rest).2
  · intro page
    rw [resolve, if_pos absolute]
  · intro noScheme noAuthority
    rw [← hasScheme_eq_true_iff, Bool.not_eq_true] at noScheme
    exact site.resolve noScheme noAuthority

end LinkSieve.Link
