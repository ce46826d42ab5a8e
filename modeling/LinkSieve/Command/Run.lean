import LinkSieve.Command.Check
import LinkSieve.Command.Test
import LinkSieve.Command.Links
import LinkSieve.Command.Harvest
/-!
# Running commands

A command begins with what it depends on: the configuration is loaded, and the definitions are applied.
Then its task is done, which is where the expression is read, pages are read, files are copied, and
results are shown and written to a file.
-/

namespace LinkSieve.Command

variable {m : Type → Type} [Monad m]

/-- Does a task. -/
def Task.run (task : Task) (host : Host m) (invocation : Invocation) (config : Config)
    (matching : Matching) : ExceptT Failure m Status :=
  match task with
  | .check expression listTokens => Check.run host invocation matching expression listTokens
  | .test expression subjects showAll =>
    Test.run host invocation matching expression subjects showAll
  | .links pages expression base => Links.run host invocation matching pages expression base
  | .harvest pages expression base directory wait =>
    Harvest.run host invocation matching config.retrieval pages expression base directory wait

/-- Runs a command. -/
def Invocation.run (invocation : Invocation) (host : Host m) : ExceptT Failure m Status := do
  let config ← perform .config (Config.load host.files invocation.config)
  let matching ← settle id (Matching.ofInvocation host.engine invocation config)
  invocation.task.run (host.quieted invocation.quiet) invocation config matching

end LinkSieve.Command
