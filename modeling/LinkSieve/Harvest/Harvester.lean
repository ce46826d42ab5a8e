import LinkSieve.Retrieval.Retry
import LinkSieve.Link.FileName
import LinkSieve.Harvest.Selection
import LinkSieve.Harvest.Report
import LinkSieve.Harvest.FileName
/-!
# Harvesting

A run fetches the accepted links of its pages, one after the other, into one directory. It remembers
which URLs it has dealt with and which file names it has given away, so that a URL on several pages is
fetched once and every link has a file of its own.
-/

namespace LinkSieve.Harvest

open LinkSieve.Retrieval

/-- What a run remembers from link to link. -/
structure Progress where
  /-- The URLs that were dealt with, whether or not they could be fetched. -/
  handled : List String
  /-- The file names that were given away. -/
  claimed : List String
  deriving Repr, DecidableEq

/-- A run before its first page. -/
def Progress.start : Progress := ⟨[], []⟩

/-- A file in a directory. -/
def joinPath (directory name : String) : String :=
  if directory.isEmpty || directory.endsWith "/" then directory ++ name
  else directory ++ "/" ++ name

/-- The settings of a run. -/
structure Harvester (m : Type → Type) where
  retriever : Retriever m
  policy : Policy
  directory : String

namespace Harvester

variable {m : Type → Type} [Monad m]

/-- Deals with one accepted link, unless the run already has, and reports on it. -/
def harvestLink (harvester : Harvester m) (state : Progress × Report) (url : String) :
    m (Progress × Report) := do
  let (progress, report) := state
  if url ∈ progress.handled then return state
  let handled := url :: progress.handled
  match Link.fileName? url.toList with
  | none => return (⟨handled, progress.claimed⟩, report.addFailure ⟨url, "link has no file name"⟩)
  | some name =>
    let fileName := freeName progress.claimed (String.ofList name)
    let progress : Progress := ⟨handled, fileName :: progress.claimed⟩
    match ← harvester.retriever.retrieve harvester.policy url
        (joinPath harvester.directory fileName) with
    | .ok retrieved =>
      return (progress, report.addDownload
        ⟨url, fileName, retrieved.bytes, retrieved.alreadyPresent⟩)
    | .error error => return (progress, report.addFailure ⟨url, error.message⟩)

/-- Deals with the accepted links of a page, given all its links. -/
def harvest (harvester : Harvester m) (progress : Progress) (filter : Filter)
    (base : Option String) (links : List String) : m (Progress × Report) :=
  let selection := Selection.ofLinks filter base links
  selection.accepted.foldlM harvester.harvestLink
    (progress, ⟨selection.examined, selection.accepted.length, [], []⟩)

end Harvester

end LinkSieve.Harvest
