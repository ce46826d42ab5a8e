import LinkSieve.Text.Cut
import LinkSieve.Text.Percent
import LinkSieve.Link.Resolve
/-!
# File names of links

A link is saved under the last segment of its path, with its percent escapes decoded. A name that would
mean another place once decoded, by a separator or as a dot segment, keeps its escapes. A link without
a last segment has no file name.
-/

namespace LinkSieve.Link

open LinkSieve.Text

/-- Whether a segment stands for the directory itself or for the one above it. -/
def isDotSegment (segment : List Char) : Bool := segment = ['.'] || segment = ['.', '.']

/-- The path of a link, without the slash at its beginning if the link has an authority. -/
def linkPath (link : List Char) : List Char :=
  let text := before pathEnds link
  match cutAt? "://".toList text with
  | none => text
  | some (_, rest) => (onward ['/'] rest).drop 1

/-- The name to save a link under. Escapes that make no text are decoded to replacement characters. -/
def fileName? (link : List Char) : Option (List Char) :=
  let raw := afterLast '/' (linkPath link)
  if raw.isEmpty || isDotSegment raw then none
  else
    let decoded := Utf8.decodeLenient (Percent.decode raw)
    if decoded.contains '/' || decoded.contains '\\' || isDotSegment decoded then some raw
    else some decoded

/-- The scheme of URLs that name local files. -/
def fileScheme : List Char := "file://".toList

/-- The URL of a local file, given its absolute path. -/
def fileUrl (path : List Char) : List Char := fileScheme ++ Percent.encode (Utf8.encode path)

end LinkSieve.Link
