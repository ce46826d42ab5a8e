import LinkSieve.Files.System
import LinkSieve.Retrieval.Policy
import LinkSieve.Command.Outcome
/-!
# Machines and hosts

What commands need from where they run. A machine has files, an input, a way to wait and a pattern
language, and a host is a machine with a console. Commands are written for any host, so that what they
do to files, and what they put on the console and when, can be told from a host whose files and whose
console are values.
-/

namespace LinkSieve.Command

/-- What a program finds where it runs, in a monad that provides it. -/
structure Machine (m : Type → Type) where
  files : Files.System m
  /-- Everything that the standard input has. -/
  input : m Files.Content
  pause : Retrieval.Duration → m Unit
  /-- Whether results are shown on a terminal. -/
  isTerminal : Bool
  /-- The language of patterns. -/
  engine : Engine String

/-- A machine with a console. -/
structure Host (m : Type → Type) extends Machine m where
  /-- Puts a text on the standard output. -/
  print : String → m Unit
  /-- Puts a line on the standard error. -/
  complain : String → m Unit

variable {m : Type → Type} [Monad m] {ε α : Type}

/-- The host with its standard error closed, if it is to be quiet. -/
def Host.quieted (host : Host m) (quiet : Bool) : Host m :=
  { host with complain := fun line => if quiet then pure () else host.complain line }

/-- A pure step of a command. -/
def settle (wrap : ε → Failure) (result : Except ε α) : ExceptT Failure m α :=
  ExceptT.mk (pure (result.mapError wrap))

/-- A step of a command that the machine performs. -/
def perform (wrap : ε → Failure) (action : m (Except ε α)) : ExceptT Failure m α :=
  ExceptT.mk do return (← action).mapError wrap

/-- The text of a page. -/
def Machine.readPage (machine : Machine m) (path : String) : ExceptT Failure m String :=
  perform (.page path) (machine.files.readText path)

/-- Writes results to a file, if there is one for them. -/
def Machine.writeOutput (machine : Machine m) (output : Option String) (results : String) :
    ExceptT Failure m Unit :=
  match output with
  | none => return ()
  | some path =>
    perform (.output path) (machine.files.write path (Text.Utf8.encode results.toList))

/-- Shows results, and then writes them to a file, if there is one for them. -/
def Host.emit (host : Host m) (output : Option String) (results : String) :
    ExceptT Failure m Unit := do
  ExceptT.lift (host.print results)
  host.writeOutput output results

end LinkSieve.Command
