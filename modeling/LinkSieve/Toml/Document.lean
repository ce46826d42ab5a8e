import LinkSieve.Toml.Lexeme
/-!
# TOML documents

A document is a sequence of statements, one on a line: a header opens a table, and a key with a value
adds to the open table. Keys and headers are paths. A statement that would define a key or a table a
second time is refused.

Values nest to a limited depth, and paths have a limited length.
-/

namespace LinkSieve.Toml

/-- The number of levels that arrays and inline tables stay below, and keys of a path likewise. -/
def nestLimit : Nat := 80

/-- Where the document stops making sense: the number of the line on which the statement begins. -/
structure DocumentError where
  line : Nat
  deriving Repr, DecidableEq

/-- Changes the table at the end of a path, and creates the tables on the way that are missing. In an
array of tables the last one is meant. A dotted key does not pass through a table under a header. -/
def Entries.update (dotted : Bool) (change : TableKind → Entries → Option (TableKind × Entries)) :
    (path : List String) → TableKind → Entries → Option (TableKind × Entries)
  | [], kind, entries => change kind entries
  | key :: path, kind, entries =>
    match entries.lookup key with
    | none => do
      let created := if dotted then TableKind.dotted else .implied
      let (inner, contents) ← Entries.update dotted change path created []
      return (kind, Entries.set key (.table inner contents) entries)
    | some (.table inner contents) =>
      if inner = .inline || (dotted && inner = .headed) then none
      else do
        let (inner, contents) ← Entries.update dotted change path inner contents
        return (kind, Entries.set key (.table inner contents) entries)
    | some (.tables (last :: others)) => do
      let (_, last) ← Entries.update dotted change path .headed last
      return (kind, Entries.set key (.tables (last :: others)) entries)
    | some _ => none

/-- Adds a key with a value below a table. A dotted key must end in a table that dotted keys created,
and a key must be new. -/
def Entries.assign (path : List String) (key : String) (value : Value) (kind : TableKind)
    (entries : Entries) : Option (TableKind × Entries) :=
  Entries.update true (fun kind entries =>
    if (kind == .dotted) == path.isEmpty || (entries.lookup key).isSome then none
    else some (kind, Entries.set key value entries)) path kind entries

/-- Opens a table under a header. It may have been implied before, and nothing else. -/
def Entries.openTable (key : String) (kind : TableKind) (entries : Entries) :
    Option (TableKind × Entries) :=
  match entries.lookup key with
  | none => some (kind, Entries.set key (.table .headed []) entries)
  | some (.table .implied contents) =>
    some (kind, Entries.set key (.table .headed contents) entries)
  | some _ => none

/-- Opens a further element of an array of tables. -/
def Entries.openElement (key : String) (kind : TableKind) (entries : Entries) :
    Option (TableKind × Entries) :=
  match entries.lookup key with
  | none => some (kind, Entries.set key (.tables [[]]) entries)
  | some (.tables elements) => some (kind, Entries.set key (.tables ([] :: elements)) entries)
  | some _ => none

/-- Reads the keys of a path, with blanks around each of them. The last argument bounds their
number. -/
def keys : Nat → List Char → Option (List String × List Char)
  | 0, _ => none
  | more + 1, rest => do
    let (key, rest) ← simpleKey (skipBlanks rest)
    match skipBlanks rest with
    | '.' :: rest =>
      let (others, rest) ← keys more rest
      return (key :: others, rest)
    | rest => return ([key], rest)

/-- Reads a path, and separates its last key. -/
def path (rest : List Char) : Option (List String × String × List Char) := do
  let (all, rest) ← keys (rest.length + 1) rest
  if all.length ≥ nestLimit then none
  return (all.dropLast, ← all.getLast?, rest)

/-- Reads a path, an equals sign and a value. -/
def assignment (value : List Char → Option (Value × List Char)) (rest : List Char) :
    Option ((List String × String × Value) × List Char) := do
  let (init, last, rest) ← path rest
  match rest with
  | '=' :: rest =>
    let (value, rest) ← value (skipBlanks rest)
    return ((init, last, value), rest)
  | _ => none

/-- Reads the items of an array after its opening bracket or after a comma. A comma may follow the last
item. The first argument bounds the number of items. -/
def items (value : List Char → Option (Value × List Char)) :
    Nat → List Char → Option (List Value × List Char)
  | 0, _ => none
  | more + 1, rest =>
    match skipFiller false rest with
    | ']' :: rest => some ([], rest)
    | rest => do
      let (item, rest) ← value rest
      match skipFiller false rest with
      | ',' :: rest =>
        let (others, rest) ← items value more rest
        return (item :: others, rest)
      | ']' :: rest => return ([item], rest)
      | _ => none

/-- Reads the assignments of an inline table, of which there is at least one left. -/
def members (value : List Char → Option (Value × List Char)) (entries : Entries) :
    Nat → List Char → Option (Entries × List Char)
  | 0, _ => none
  | more + 1, rest => do
    let ((init, last, assigned), rest) ← assignment value rest
    let (_, entries) ← Entries.assign init last assigned .headed entries
    match skipBlanks rest with
    | ',' :: rest => members value entries more rest
    | '}' :: rest => return (entries, rest)
    | _ => none

/-- Reads a value with arrays and inline tables that nest at most `depth` levels. -/
def value : (depth : Nat) → List Char → Option (Value × List Char)
  | depth, '[' :: rest =>
    match depth with
    | 0 => none
    | depth + 1 => do
      let (items, rest) ← items (value depth) (rest.length + 1) rest
      return (.array items, rest)
  | depth, '{' :: rest =>
    match depth with
    | 0 => none
    | depth + 1 =>
      match skipBlanks rest with
      | '}' :: rest => some (.table .inline [], rest)
      | rest => do
        let (entries, rest) ← members (value depth) [] (rest.length + 1) rest
        return (.table .inline entries, rest)
  | _, rest => scalar rest

/-- The document so far, and the path of the open table. -/
structure Draft where
  entries : Entries
  current : List String

/-- The statement that begins a line: a header or an assignment. -/
def Draft.statement (draft : Draft) (rest : List Char) : Option (Draft × List Char) :=
  match rest with
  | '[' :: '[' :: rest => do
    let (init, last, rest) ← path rest
    match rest with
    | ']' :: ']' :: rest =>
      let (_, entries) ← Entries.update false (Entries.openElement last) init .headed draft.entries
      return (⟨entries, init ++ [last]⟩, rest)
    | _ => none
  | '[' :: rest => do
    let (init, last, rest) ← path rest
    match rest with
    | ']' :: rest =>
      let (_, entries) ← Entries.update false (Entries.openTable last) init .headed draft.entries
      return (⟨entries, init ++ [last]⟩, rest)
    | _ => none
  | rest => do
    let ((init, last, assigned), rest) ← assignment (value (nestLimit - 1)) rest
    let (_, entries) ← Entries.update false (Entries.assign init last assigned) draft.current .headed
      draft.entries
    return ({ draft with entries }, rest)

/-- The number of lines that end between two places of a text, of which the second is given by what
follows it. -/
def linesBetween (text rest : List Char) : Nat :=
  (text.take (text.length - rest.length)).count '\n'

/-- Reads lines from a place on. The last argument bounds their number. -/
def Draft.lines (draft : Draft) (line : Nat) (rest : List Char) :
    Nat → Except DocumentError Entries
  | 0 => .error ⟨line⟩
  | more + 1 =>
    let start := skipBlanks rest
    let read := match start with
      | [] => some (draft, [])
      | '#' :: _ | '\n' :: _ | '\r' :: _ => some (draft, start)
      | start => draft.statement start
    match read with
    | none => .error ⟨line⟩
    | some (draft, after) =>
      match lineEnd after with
      | none => .error ⟨line⟩
      | some [] => .ok draft.entries
      | some next => draft.lines (line + linesBetween rest next) next more

/-- Reads a document. A byte order mark in front of it is dropped. -/
def parse (text : String) : Except DocumentError Entries :=
  let chars := match text.toList with
    | '\uFEFF' :: rest => rest
    | all => all
  Draft.lines ⟨[], []⟩ 1 chars (chars.length + 1)

end LinkSieve.Toml
