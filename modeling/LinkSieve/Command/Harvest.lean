import LinkSieve.Command.Links
import LinkSieve.Files.Local
import LinkSieve.Harvest.Harvester
/-!
# Harvesting pages

What the accepted links of pages lead to is copied into a directory, which is created first. Links
without a base of their own are resolved against the URL of their page.
-/

namespace LinkSieve.Command.Harvest

open LinkSieve.Harvest LinkSieve.Retrieval

variable {m : Type → Type} [Monad m]

/-- The rules for retrievals, with a pause that the invocation may set. -/
def policy (rules : RetrievalRules) (wait : Option Nat) : Policy :=
  RetrievalRules.policy { rules with waitSeconds := wait.getD rules.waitSeconds }

/-- The harvester of a command. -/
def harvester (machine : Machine m) (rules : RetrievalRules) (directory : String)
    (wait : Option Nat) : Harvester m :=
  ⟨machine.files.retriever machine.pause, policy rules wait, directory⟩

/-- The URL of a page that is a local file. -/
def pageUrl (machine : Machine m) (page : String) : ExceptT Failure m String := do
  let path ← perform (.pagePath page) (machine.files.resolve page)
  return String.ofList (Link.fileUrl path.toList)

/-- The URL that the links of a page are resolved against. -/
def pageBase (machine : Machine m) (base : Option String) (page : String) :
    ExceptT Failure m String :=
  match base with
  | some base => return Links.baseUrl base
  | none => pageUrl machine page

/-- Harvests a page and adds what became of its links to the report. -/
def addPage (machine : Machine m) (harvester : Harvester m) (filter : Filter)
    (base : Option String) (state : Progress × Report) (page : String) :
    ExceptT Failure m (Progress × Report) := do
  let html ← machine.readPage page
  let base ← pageBase machine base page
  let (progress, report) ← ExceptT.lift
    (harvester.harvest state.1 filter (some base) (pageLinks html))
  return (progress, state.2.merge report)

/-- What there is to tell about a harvest. -/
def results (format : OutputFormat) (report : Report) : String :=
  match format with
  | .text => report.text
  | .json => report.document.pretty ++ "\n"

/-- Harvests pages. -/
def run (host : Host m) (invocation : Invocation) (matching : Matching) (rules : RetrievalRules)
    (pages : List String) (expression : String) (base : Option String) (directory : String)
    (wait : Option Nat) : ExceptT Failure m Status := do
  let filter ← matching.build host expression
  perform (.directory directory) (host.files.createDirectories directory)
  let harvester := harvester host.toMachine rules directory wait
  let (_, report) ← pages.foldlM (addPage host.toMachine harvester filter base) (.start, .empty)
  host.emit invocation.output (results invocation.format report)
  return .ofBool report.failed.isEmpty

end LinkSieve.Command.Harvest
