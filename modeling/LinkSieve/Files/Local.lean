import LinkSieve.Files.System
import LinkSieve.Text.Percent
import LinkSieve.Link.FileName
import LinkSieve.Retrieval.Retry
/-!
# Retrieving local files

URLs of the `file` scheme name files of this machine, with percent escapes decoded and with queries and
fragments as parts of the name. They are retrieved by copying. A link that leads to its destination is
left alone, since copying a file onto itself would empty it.
-/

namespace LinkSieve.Files

open LinkSieve.Text LinkSieve.Retrieval

variable {m : Type → Type} [Monad m]

/-- The path that a URL of the `file` scheme names. -/
def localPath (url : List Char) : Except String String :=
  if Link.fileScheme.isPrefixOf url then
    let encoded := url.drop Link.fileScheme.length
    match Utf8.decode (Percent.decode encoded) with
    | .ok path => .ok (String.ofList path)
    | .error fault => .error ("cannot decode '" ++ String.ofList encoded ++ "': " ++ fault.message)
  else .error "only file:// URLs can be retrieved locally"

/-- The absolute path that two paths have in common, if both lead to it. -/
def System.sameFile? (system : System m) (path other : String) : m (Option String) := do
  match ← system.resolve path, ← system.resolve other with
  | .ok first, .ok second => return if first = second then some first else none
  | _, _ => return none

/-- Fetches a URL by copying the file that it names. -/
def System.fetch (system : System m) (url destination : String) : m FetchOutcome := do
  match localPath url.toList with
  | .error reason => return .failed reason
  | .ok path =>
    match ← system.sameFile? path destination with
    | some absolute =>
      match ← system.size absolute with
      | .ok bytes => return .alreadyPresent bytes
      | .error error => return .failed ("cannot inspect '" ++ absolute ++ "': " ++ error.message)
    | none =>
      match ← system.copy path destination with
      | .ok bytes => return .saved bytes
      | .error error => return .failed ("cannot copy '" ++ path ++ "': " ++ error.message)

/-- The retriever for local files, with a way to pause. -/
def System.retriever (system : System m) (pause : Duration → m Unit) : Retriever m where
  fetch := system.fetch
  pause

end LinkSieve.Files
