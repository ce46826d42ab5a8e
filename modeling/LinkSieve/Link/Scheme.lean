import LinkSieve.Text.Cut
/-!
# Schemes

A URL may begin with a scheme: a letter, then letters, digits, plus signs, hyphens and dots, then a
colon. A link with a scheme is absolute.
-/

namespace LinkSieve.Link

/-- The characters of a scheme after its first letter. -/
def isSchemeChar (c : Char) : Bool := c.isAlphanum || c == '+' || c == '.' || c == '-'

/-- Cuts a text after the colon of its scheme, if it begins with one. -/
def scheme? (text : List Char) : Option (List Char × List Char) :=
  match text with
  | [] => none
  | first :: rest =>
    if !first.isAlpha then none
    else
      match rest.dropWhile isSchemeChar with
      | ':' :: after => some (first :: rest.takeWhile isSchemeChar ++ [':'], after)
      | _ => none

/-- Whether a text begins with a scheme. -/
def hasScheme (text : List Char) : Bool := (scheme? text).isSome

/-- What is put in front of a URL without a scheme. -/
def defaultScheme : List Char := "http://".toList

/-- Completes a URL that was typed without a scheme. A scheme counts only with two slashes after it, so
that a port is not taken for the rest of a URL whose scheme is the host. -/
def ensureScheme (url : List Char) : List Char :=
  match scheme? url with
  | some (_, '/' :: '/' :: _) => url
  | _ => defaultScheme ++ url

end LinkSieve.Link
