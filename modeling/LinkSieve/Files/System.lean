import LinkSieve.Files.Error
import LinkSieve.Text.Utf8
/-!
# File systems

What the program asks of a file system. Paths are texts, relative ones counted from the working
directory. Where reading, writing or copying fails, nothing is changed.
-/

namespace LinkSieve.Files

/-- The contents of a file. -/
abbrev Content := List UInt8

/-- The operations on files that the program needs, in a monad that performs them. -/
structure System (m : Type → Type) where
  /-- The contents of a file. -/
  read : (path : String) → m (Except Error Content)
  /-- Replaces the contents of a file, or creates it. -/
  write : (path : String) → Content → m (Except Error Unit)
  /-- Copies a file over another one, or creates that. The result is the number of bytes. -/
  copy : (source destination : String) → m (Except Error Nat)
  /-- The absolute path of something that exists, without dot segments. -/
  resolve : (path : String) → m (Except Error String)
  /-- The size of something that exists, by its absolute path. -/
  size : (path : String) → m (Except Error Nat)
  /-- Creates a directory and those above it that are missing. -/
  createDirectories : (path : String) → m (Except Error Unit)

variable {m : Type → Type} [Monad m]

/-- The text of a file. -/
def System.readText (system : System m) (path : String) : m (Except Error String) := do
  match ← system.read path with
  | .error error => return .error error
  | .ok content =>
    match Text.Utf8.decode content with
    | .ok text => return .ok (String.ofList text)
    | .error _ => return .error .notText

end LinkSieve.Files
