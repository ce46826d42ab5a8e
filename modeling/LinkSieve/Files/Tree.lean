import LinkSieve.Files.System
import LinkSieve.Text.Cut
/-!
# File trees

A file tree is a file system as a value: files and directories by the names that lead to them from the
root, and a working directory. There are no links, so each file has one place and each place is reached
by one list of names.

A path is walked name by name. Every name but the last must lead to a directory, also if the next one
leads back. What a path leads to is either there, or is missing in a directory that is there.
-/

namespace LinkSieve.Files

/-- What stands at a place. -/
inductive Entry where
  | file (content : Content)
  | directory
  deriving Repr, DecidableEq

/-- The names that lead to a place from the root. -/
abbrev Place := List String

/-- A file system. The root is always a directory and has no entry. -/
structure Tree where
  entries : List (Place × Entry)
  workingDirectory : Place
  deriving Repr, DecidableEq

/-- The size that is given for a directory. -/
def directorySize : Nat := 4096

namespace Tree

/-- What stands at a place. -/
def get? (tree : Tree) (place : Place) : Option Entry :=
  if place = [] then some .directory else tree.entries.lookup place

/-- Puts something at a place, in the stead of what was there. -/
def set (tree : Tree) (place : Place) (entry : Entry) : Tree :=
  { tree with
    entries := (place, entry) :: tree.entries.filter fun other => other.1 ≠ place }

/-- Whether the place is a directory. -/
def isDirectory (tree : Tree) (place : Place) : Bool := tree.get? place = some .directory

/-- What a path leads to: something that is there, or a missing name in a directory. -/
inductive Target where
  | present (place : Place) (entry : Entry)
  | missing (directory : Place) (name : String)
  deriving Repr, DecidableEq

/-- The number of bytes that a name may have. -/
def maxNameLength : Nat := 255

/-- The number of bytes that a path stays below. -/
def maxPathLength : Nat := 4096

/-- Walks on from a place along segments of a path. An empty segment is a doubled slash or one at an
end of the path. -/
def walk (tree : Tree) (place : Place) : (segments : List String) → Except Error Target
  | [] =>
    match tree.get? place with
    | some entry => .ok (.present place entry)
    | none => .error .notFound
  | segment :: rest =>
    match tree.get? place with
    | none => .error .notFound
    | some (.file _) => .error .notADirectory
    | some .directory =>
      if segment = "" ∨ segment = "." then walk tree place rest
      else if segment = ".." then walk tree place.dropLast rest
      else if segment.utf8ByteSize > maxNameLength then .error .nameTooLong
      else
        let next := place ++ [segment]
        if (tree.get? next).isSome then walk tree next rest
        else if rest.all (· = "") then .ok (.missing place segment)
        else .error .notFound

/-- The segments of a path. -/
def segments (path : String) : List String :=
  (Text.splitAt '/' path.toList).map String.ofList

/-- What a path leads to. A slash at the end of the path asks for a directory. -/
def target (tree : Tree) (path : String) : Except Error Target :=
  if path.toList.contains '\x00' then .error .invalidPath
  else if path.toList.isEmpty then .error .notFound
  else if path.utf8ByteSize ≥ maxPathLength then .error .nameTooLong
  else
    let start := if path.toList.head? = some '/' then [] else tree.workingDirectory
    tree.walk start (segments path)

/-- The place and the entry of something that is there. -/
def locate (tree : Tree) (path : String) : Except Error (Place × Entry) := do
  match ← tree.target path with
  | .present place entry => return (place, entry)
  | .missing .. => throw .notFound

/-- The absolute path of a place. -/
def absolute (place : Place) : String :=
  if place.isEmpty then "/" else String.join (place.map fun name => "/" ++ name)

/-- The contents of a file. -/
def read (tree : Tree) (path : String) : Except Error Content := do
  match ← tree.locate path with
  | (_, .file content) => return content
  | (_, .directory) => throw .isADirectory

/-- The path without the slashes at its end. -/
def withoutTrailingSlashes (path : String) : String :=
  String.ofList (path.toList.reverse.dropWhile (· = '/')).reverse

/-- The place where a path lets a file be written: that of a file, or a free one. A slash at the end
of the path stands for a directory, whether there is one or not. -/
def writable (tree : Tree) (path : String) : Except Error Place := do
  let bare := withoutTrailingSlashes path
  let trailing := bare ≠ path
  if trailing && bare.isEmpty then throw .isADirectory
  match ← tree.target bare with
  | .present _ .directory => throw .isADirectory
  | .present place (.file _) => if trailing then throw .isADirectory else return place
  | .missing directory name =>
    if trailing then throw .isADirectory else return directory ++ [name]

/-- The tree after a file was written. -/
def write (tree : Tree) (path : String) (content : Content) : Except Error Tree := do
  return tree.set (← tree.writable path) (.file content)

/-- The number of bytes that are copied, and the tree after it. The destination is emptied before the
source is read, so a file that is copied onto itself is lost. -/
def copy (tree : Tree) (source destination : String) : Except Error (Nat × Tree) := do
  match ← tree.locate source with
  | (_, .directory) => throw .notAFile
  | (place, .file content) =>
    let free ← tree.writable destination
    let copied := if free = place then [] else content
    return (copied.length, tree.set free (.file copied))

/-- The absolute path of something that is there. -/
def resolve (tree : Tree) (path : String) : Except Error String := do
  return absolute (← tree.locate path).1

/-- The size of something that is there. -/
def size (tree : Tree) (path : String) : Except Error Nat := do
  match ← tree.locate path with
  | (_, .file content) => return content.length
  | (_, .directory) => return directorySize

/-- The tree with a directory made where there was nothing. -/
def makeDirectory (tree : Tree) (path : String) : Except Error Tree := do
  match ← tree.target path with
  | .present .. => throw .alreadyExists
  | .missing directory name => return tree.set (directory ++ [name]) .directory

/-- The path of the directory above, as far as the path tells: without its last name and without what
stands for nothing behind it. -/
def parentPath (path : String) : String :=
  let absolute := path.toList.head? = some '/'
  let names := (segments path).filter fun segment => segment ≠ "" ∧ segment ≠ "."
  let leading := if (segments path).head? = some "." then ["."] else []
  (if absolute then "/" else "") ++ "/".intercalate (leading ++ names).dropLast

/-- Whether a path leads to a directory. -/
def leadsToDirectory (tree : Tree) (path : String) : Bool :=
  match tree.locate path with
  | .ok (_, .directory) => true
  | _ => false

/-- The outcome of making a directory, where one that is there already is as good as a new one. -/
def ensureDirectory (tree : Tree) (path : String) : Except Error Unit × Tree :=
  match tree.makeDirectory path with
  | .ok made => (.ok (), made)
  | .error error => (if tree.leadsToDirectory path then .ok () else .error error, tree)

/-- Makes a directory, and before it those above it that are missing. Directories that were made stay
where a later one cannot be made. The last argument bounds the number of directories. -/
def makeDirectories (tree : Tree) (path : String) : Nat → Except Error Unit × Tree
  | 0 => (.error .notFound, tree)
  | more + 1 =>
    if path.toList.isEmpty then (.ok (), tree)
    else
      match tree.ensureDirectory path with
      | (.error .notFound, _) =>
        match tree.makeDirectories (parentPath path) more with
        | (.ok (), made) => made.ensureDirectory path
        | failed => failed
      | outcome => outcome

/-- Performs an operation that gives a value and leaves the tree alone. -/
def query {α : Type} (operation : Tree → Except Error α) : StateM Tree (Except Error α) :=
  fun tree => (operation tree, tree)

/-- Performs an operation that changes the tree if it succeeds. -/
def update {α : Type} (operation : Tree → Except Error (α × Tree)) : StateM Tree (Except Error α) :=
  fun tree =>
    match operation tree with
    | .ok (value, changed) => (.ok value, changed)
    | .error error => (.error error, tree)

/-- The file system whose state is a tree. -/
def system : System (StateM Tree) where
  read path := query (·.read path)
  write path content := update fun tree => do return ((), ← tree.write path content)
  copy source destination := update (·.copy source destination)
  resolve path := query (·.resolve path)
  size path := query (·.size path)
  createDirectories path := fun tree => tree.makeDirectories path (path.length + 1)

end Tree

end LinkSieve.Files
