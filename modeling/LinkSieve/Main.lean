import LinkSieve.Program
import LinkSieve.Files.Tree
import LinkSieve.Regex.Compile
/-!
# The program

The commands on the files of this machine, with the results on the standard output and with messages on
the standard error.
-/

namespace LinkSieve.Main

open Files

/-- Whether a code stands for an error number. Some operations report the number with its sign
changed. -/
def isNumber (code : UInt32) (number : Nat) : Bool :=
  code.toNat = number || code.toNat = UInt32.size - number

/-- An error of the operating system. Those that have a constructor of their own are told apart. -/
def fileError (error : IO.Error) : Files.Error :=
  match error with
  | .noFileOrDirectory .. => .notFound
  | .alreadyExists .. => .alreadyExists
  | .inappropriateType _ code _ =>
    if isNumber code 20 then .notADirectory
    else if isNumber code 21 then .isADirectory
    else .other (toString error)
  | .invalidArgument _ code _ =>
    if isNumber code 36 then .nameTooLong else .other (toString error)
  | error => .other (toString error)

/-- Performs an action that may fail. -/
def attempt {α : Type} (action : IO α) : IO (Except Files.Error α) := do
  try
    return .ok (← action)
  catch error =>
    return .error (fileError error)

/-- The bytes of an array. -/
def content (bytes : ByteArray) : Content := bytes.toList

/-- Whether a path leads to a directory. -/
def isDirectory (path : String) : IO (Except Files.Error Bool) :=
  attempt do (← IO.FS.realPath path).isDir

/-- Makes a directory unless it is there. -/
def ensureDirectory (path : String) : IO (Except Files.Error Unit) := do
  match ← attempt (IO.FS.createDir path), ← isDirectory path with
  | .error _, .ok true => return .ok ()
  | outcome, _ => return outcome

/-- Makes a directory and those above it that are missing. -/
partial def createDirectories (path : String) : IO (Except Files.Error Unit) := do
  if path.isEmpty then return .ok ()
  match ← ensureDirectory path with
  | .error .notFound =>
    match ← createDirectories (Tree.parentPath path) with
    | .ok () => ensureDirectory path
    | failed => return failed
  | outcome => return outcome

/-- The files of this machine. -/
def files : System IO where
  read path := attempt do return content (← IO.FS.readBinFile path)
  write path content := attempt (IO.FS.writeBinFile path ⟨content.toArray⟩)
  copy source destination := do
    match ← isDirectory source with
    | .error error => return .error error
    | .ok true => return .error .notAFile
    | .ok false =>
      attempt do
        let bytes ← IO.FS.readBinFile source
        IO.FS.writeBinFile destination bytes
        return bytes.size
  resolve path := attempt do return (← IO.FS.realPath path).toString
  size path := attempt do return (← (← IO.FS.realPath path).metadata).byteSize.toNat
  createDirectories

/-- Reads a stream to its end. -/
partial def readAll (stream : IO.FS.Stream) (read : ByteArray) : IO ByteArray := do
  let bytes ← stream.read 65536
  if bytes.isEmpty then return read else readAll stream (read ++ bytes)

/-- Waits. No wait is longer than the greatest number of milliseconds in a word. -/
def pause (duration : Retrieval.Duration) : IO Unit :=
  IO.sleep (min (duration.nanoseconds / 1000000) (UInt32.size - 1)).toUInt32

/-- This machine. -/
def host : IO (Command.Host IO) := do
  return {
    files
    input := do return content (← readAll (← IO.getStdin) .empty)
    pause
    isTerminal := ← (← IO.getStdout).isTty
    engine := Engine.worded Regex.CompileError.message Regex.engine
    print := IO.print
    complain := IO.eprintln }

/-- The environment variable that names the configuration file. -/
def configVariable : String := "LINKSIEVE_CONFIG"

end LinkSieve.Main

open LinkSieve

/-- Runs the program. -/
def main (arguments : List String) : IO UInt32 := do
  let code ← Program.run (← Main.host) (← IO.getEnv Main.configVariable) arguments
  return code.toUInt32
