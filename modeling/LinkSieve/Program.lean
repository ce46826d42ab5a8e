import LinkSieve.CommandLine.Invocation
import LinkSieve.Command.Run
/-!
# Runs of the program

A run of the program reads a command line and follows it on a host. A command line that asks for help
or for the version is answered without a command, and one that cannot be read is refused. The result of
a run is the exit status.
-/

namespace LinkSieve.Program

variable {m : Type → Type} [Monad m]

/-- Answers a command line without a command. -/
def answer (host : Command.Host m) : CommandLine.Stop → m Nat
  | .help => do
    host.print CommandLine.usage
    return 0
  | .version => do
    host.print CommandLine.version
    return 0
  | .misuse error => do
    host.complain ("error: " ++ error.message)
    return Command.failureCode

/-- Runs the program on a host, with the path that the environment names and with its arguments. -/
def run (host : Command.Host m) (configVariable : Option String) (arguments : List String) :
    m Nat := do
  match CommandLine.parse configVariable arguments with
  | .error stop => answer host stop
  | .ok invocation =>
    match ← (invocation.run host).run with
    | .ok status => return status.code
    | .error failure =>
      host.complain ("Error: " ++ failure.message)
      return Command.failureCode

end LinkSieve.Program
