import LinkSieve.Command.Matching
import LinkSieve.Harvest.Selection
import LinkSieve.Link.Scheme
/-!
# Listing links

The links of several pages are selected as if they stood on one page. All pages share a base.
-/

namespace LinkSieve.Command.Links

open Harvest

variable {m : Type → Type} [Monad m]

/-- A base as it is used: with a scheme. -/
def baseUrl (base : String) : String := String.ofList (Link.ensureScheme base.toList)

/-- Adds the accepted links of a page. -/
def addPage (machine : Machine m) (filter : Filter) (base : Option String) (selection : Selection)
    (page : String) : ExceptT Failure m Selection := do
  let html ← machine.readPage page
  return selection.merge (.ofLinks filter base (pageLinks html))

/-- What there is to tell about the links of pages. -/
def results (format : OutputFormat) (pages : List String) (filter : Filter)
    (selection : Selection) : String :=
  match format with
  | .text => selection.text
  | .json => (selection.document pages filter).pretty ++ "\n"

/-- Lists the accepted links of pages. -/
def run (host : Host m) (invocation : Invocation) (matching : Matching) (pages : List String)
    (expression : String) (base : Option String) : ExceptT Failure m Status := do
  let filter ← matching.build host expression
  let selection ← pages.foldlM (addPage host.toMachine filter (base.map baseUrl)) .empty
  host.emit invocation.output (results invocation.format pages filter selection)
  return .found

end LinkSieve.Command.Links
