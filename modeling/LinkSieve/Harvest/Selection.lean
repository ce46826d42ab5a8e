import LinkSieve.Filter
import LinkSieve.Json
import LinkSieve.Link.Resolve
import LinkSieve.Link.Anchor
/-!
# Selecting links

The links of a page are resolved, tested by a filter, and collected without repetitions in the order
of the page. Within a page, a set of the links so far tells which ones come again. When the selections
of several pages are merged, the links that were selected before tell it.
-/

namespace LinkSieve.Harvest

/-- The links that were accepted, and the number of links that were examined. -/
structure Selection where
  examined : Nat
  accepted : List String
  deriving Repr, DecidableEq

/-- Puts a link at the end of a list unless it is in it. -/
def addNew (links : List String) (link : String) : List String :=
  if link ∈ links then links else links ++ [link]

/-- The links of a page in the order of the page. -/
def pageLinks (html : String) : List String := (Link.extract html.toList).map String.ofList

/-- What the filter is asked about: the link as it is, or resolved if the URL of the page is known. -/
def subjectOf (base : Option String) (link : String) : String :=
  match base with
  | some base => String.ofList (Link.resolve base.toList link.toList)
  | none => link

/-- Links as they are collected from a page: the set of those that were seen, and their list. -/
structure Collected where
  seen : List String
  accepted : List String

namespace Collected

/-- No links. -/
def empty : Collected := ⟨[], []⟩

/-- Collects a link unless it was seen before. -/
def collect (collected : Collected) (link : String) : Collected :=
  if link ∈ collected.seen then collected
  else ⟨link :: collected.seen, collected.accepted ++ [link]⟩

end Collected

namespace Selection

/-- The selection from no pages. -/
def empty : Selection := ⟨0, []⟩

/-- Selects from the links of a page. -/
def ofLinks (filter : Filter) (base : Option String) (links : List String) : Selection where
  examined := links.length
  accepted :=
    let subjects := links.map (subjectOf base)
    ((subjects.filter filter.accepts).foldl Collected.collect .empty).accepted

/-- Adds the selection from a further page. -/
def merge (selection other : Selection) : Selection where
  examined := selection.examined + other.examined
  accepted := other.accepted.foldl addNew selection.accepted

/-- One line for each accepted link. -/
def text (selection : Selection) : String :=
  String.join (selection.accepted.map fun link => link ++ "\n")

/-- The selection as a document, with the pages that it was made from. -/
def document (sources : List String) (filter : Filter) (selection : Selection) : Json :=
  .object [("links", .object [
    ("sources", .strings sources),
    ("expression", .str filter.render),
    ("examined", .num selection.examined),
    ("accepted", .strings selection.accepted)])]

end Selection

end LinkSieve.Harvest
