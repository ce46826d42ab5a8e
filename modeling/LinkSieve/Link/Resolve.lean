import LinkSieve.Link.Scheme
/-!
# Resolving links

A link is read relative to the URL of its page. An absolute link is kept as it is. Otherwise the link
takes over as much of the page's URL as it does not say itself: the scheme, the authority, the path, or
all but the fragment. A relative path is walked from the directory of the page, and the result has no
empty segment and no dot segment. Queries and fragments of links are never walked.
-/

namespace LinkSieve.Link

open LinkSieve.Text

/-- The parts of a page's URL that its links take over. -/
structure Base where
  scheme : List Char
  authority : List Char
  path : List Char
  deriving Repr, DecidableEq

/-- The characters that end a path. -/
def pathEnds : List Char := ['?', '#']

/-- The parts of a URL with an authority. -/
def Base.ofUrl? (url : List Char) : Option Base := do
  let (scheme, rest) ← cutAt? "://".toList url
  return ⟨scheme, before ('/' :: pathEnds) rest,
    before pathEnds (onward ('/' :: pathEnds) rest)⟩

/-- The scheme with the two slashes after it. -/
def Base.root (base : Base) : List Char := base.scheme ++ "://".toList

/-- The scheme and the authority. -/
def Base.site (base : Base) : List Char := base.root ++ base.authority

/-- The directory of the page: its path up to the last slash. -/
def Base.directory (base : Base) : List Char :=
  if base.path.contains '/' then throughLast '/' base.path else ['/']

/-- Walks along the segments of a path, where `walked` holds the names so far with the last one first.
A double dot takes back a name, if there is one. -/
def walk (walked : List (List Char)) : List (List Char) → List (List Char)
  | [] => walked.reverse
  | segment :: rest =>
    if segment = [] ∨ segment = ['.'] then walk walked rest
    else if segment = ['.', '.'] then walk (walked.drop 1) rest
    else walk (segment :: walked) rest

/-- Whether a path names a directory: it ends in a slash or in a dot segment. -/
def namesDirectory (path : List Char) : Bool :=
  ['/'].isSuffixOf path || ['/', '.'].isSuffixOf path || ['/', '.', '.'].isSuffixOf path

/-- A path with a slash before each name, and one at the end if it is a directory. -/
def joinPath (names : List (List Char)) (directory : Bool) : List Char :=
  if names.isEmpty then ['/']
  else names.flatMap ('/' :: ·) ++ (if directory then ['/'] else [])

/-- Walks the path of a text, and keeps what follows the path. -/
def normalizePath (text : List Char) : List Char :=
  let path := before pathEnds text
  joinPath (walk [] (splitAt '/' path)) (namesDirectory path) ++ onward pathEnds text

/-- The URL that a link on the page `page` leads to. A page without an authority leaves relative links
as they are. -/
def resolve (page link : List Char) : List Char :=
  if hasScheme link then link
  else
    match Base.ofUrl? page with
    | none => link
    | some base =>
      match link with
      | '/' :: '/' :: rest => base.root ++ rest
      | '/' :: _ => base.site ++ link
      | '?' :: _ => base.site ++ base.path ++ link
      | '#' :: _ => before ['#'] page ++ link
      | _ => base.site ++ normalizePath (base.directory ++ link)

end LinkSieve.Link
