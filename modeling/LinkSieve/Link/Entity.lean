import LinkSieve.Text.Cut
/-!
# Entities

Five characters have names in attribute values. Their names are replaced one after the other, the
ampersand last, so that a name that was itself escaped stays a name.
-/

namespace LinkSieve.Link

/-- The named characters, in the order in which their names are replaced. -/
def entities : List (List Char × List Char) :=
  [("&quot;".toList, ['"']), ("&#39;".toList, ['\'']), ("&lt;".toList, ['<']), ("&gt;".toList, ['>']),
    ("&amp;".toList, ['&'])]

/-- Replaces the names of characters in an attribute value. -/
def decodeEntities (value : List Char) : List Char :=
  entities.foldl (fun text entity => Text.replaceAll entity.1 entity.2 text) value

end LinkSieve.Link
