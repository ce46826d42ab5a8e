import LinkSieve.Regex.Lexeme
/-!
# Reading patterns

A pattern is read from left to right into a tree. The reader keeps one level for each open group, with
the items of the alternative that is being read and the alternatives before it, and one level for each
open bracket, with the items of the set and the operator that waits for it. While a bracket is open,
the next characters belong to the innermost one.

Every step reads at least one character, so as many steps as there are characters are enough.
-/

namespace LinkSieve.Regex

/-- The number of levels that a pattern may nest. -/
def nestLimit : Nat := 250

/-- A bracket that is still open. -/
structure ClassLevel where
  negated : Bool
  /-- Whether only hyphens have been read so far, which stand for themselves here. -/
  leading : Bool
  /-- A set operator that waits for its right side. -/
  waiting : Option (SetOperator × ClassTree)
  items : Option ClassTree

namespace ClassLevel

/-- Adds an item to the set. -/
def add (level : ClassLevel) (item : ClassTree) : ClassLevel :=
  { level with items := some (match level.items with
      | none => item
      | some init => .items init item) }

/-- The set as read so far. -/
def contents (level : ClassLevel) : ClassTree :=
  let right := level.items.getD .empty
  match level.waiting with
  | none => right
  | some (operator, left) => .combination operator left right

/-- Makes an operator wait for its right side. Operators group to the left. -/
def combine (level : ClassLevel) (operator : SetOperator) : ClassLevel :=
  { level with waiting := some (operator, level.contents), items := none }

end ClassLevel

/-- A group that is still open, or the whole pattern. Items and alternatives have the last one
first. -/
structure GroupLevel where
  captures : Bool
  change : FlagChange
  /-- Whether blanks are ignored after the group. -/
  ignoreSpaceAfter : Bool
  alternatives : List Tree
  items : List Tree

namespace GroupLevel

/-- The items as one tree. -/
def sequence : List Tree → Tree
  | [] => .empty
  | [item] => item
  | last :: init => .sequence (sequence init) last

/-- The alternatives as one tree. -/
def choice : List Tree → Tree
  | [] => .empty
  | [alternative] => alternative
  | last :: init => .alternatives (choice init) last

/-- What the group holds so far. -/
def contents (level : GroupLevel) : Tree := choice (sequence level.items :: level.alternatives)

end GroupLevel

/-- The reader between two steps. -/
structure Reader where
  ignoreSpace : Bool
  level : GroupLevel
  enclosing : List GroupLevel
  /-- The open brackets, innermost first. -/
  brackets : List ClassLevel
  /-- The names of groups so far. -/
  names : List (List Char)

/-- What an item of a set must be: anything but a dot or an assertion. -/
def Atom.classItem? : Atom → Option ClassTree
  | literal value => some (.literal value)
  | property name negated => some (.property name negated)
  | shorthand kind negated => some (.shorthand kind negated)
  | dot | assertion _ => none

/-- The same atom outside brackets. -/
def Atom.tree : Atom → Tree
  | literal value => .literal value
  | property name negated => .property name negated
  | shorthand kind negated => .shorthand kind negated
  | dot => .dot
  | assertion kind => .assertion kind

/-- The character after the next one, without blanks where they are ignored. Of a comment only its
first mark is passed over here, and if nothing but blanks follow, the very next character counts. -/
def following (ignoreSpace : Bool) (rest : List Char) : Option Char :=
  if ignoreSpace then
    let visible := match rest.dropWhile Unicode.isWhitespace with
      | '#' :: comment => comment.dropWhile Unicode.isWhitespace
      | other => other
    visible.head?.or rest.head?
  else rest.head?

/-- Reads an item of a set, or a range of characters between two literals. A hyphen before a bracket or
before another hyphen makes no range. -/
def classRange (ignoreSpace : Bool) (c : Char) (rest : List Char) : Option (ClassTree × List Char) := do
  let (first, rest) ← classAtom ignoreSpace c rest
  match skip ignoreSpace rest with
  | [] => none
  | '-' :: after =>
    let next := following ignoreSpace after
    if next = some ']' || next = some '-' then return (← first.classItem?, '-' :: after)
    else
      match skip ignoreSpace after with
      | [] => none
      | c :: rest =>
        let (final, rest) ← classAtom ignoreSpace c rest
        match first, final with
        | .literal first, .literal final =>
          if first.char ≤ final.char then some (.range first final, rest) else none
        | _, _ => none
  | rest => return (← first.classItem?, rest)

namespace Reader

/-- The reader before the first character. -/
def start : Reader := ⟨false, ⟨false, ⟨[], []⟩, false, [], []⟩, [], [], []⟩

/-- Adds an item to the innermost group. -/
def push (reader : Reader) (item : Tree) : Reader :=
  { reader with level := { reader.level with items := item :: reader.level.items } }

/-- Opens a group. -/
def enter (reader : Reader) (captures : Bool) (change : FlagChange) : Reader :=
  { reader with
    ignoreSpace := (change.state? .ignoreSpace).getD reader.ignoreSpace
    level := ⟨captures, change, reader.ignoreSpace, [], []⟩
    enclosing := reader.level :: reader.enclosing }

/-- Opens a group with a name that no other group has. -/
def openNamed (reader : Reader) (rest : List Char) : Option (Reader × List Char) := do
  let (name, rest) ← groupName rest
  if reader.names.contains name then none
  return ({ reader.enter true ⟨[], []⟩ with names := name :: reader.names }, rest)

/-- Reads what follows an opening parenthesis. Conditions on what stands before or after a place are
refused. -/
def openGroup (reader : Reader) (rest : List Char) : Option (Reader × List Char) :=
  match skip reader.ignoreSpace rest with
  | '?' :: 'P' :: '<' :: rest => reader.openNamed rest
  | '?' :: '<' :: rest =>
    match rest with
    | '=' :: _ | '!' :: _ => none
    | _ => reader.openNamed rest
  | '?' :: rest => do
    let ((change, stop), rest) ← flags ⟨[], []⟩ false false rest
    match stop with
    | .colon => return (reader.enter false change, rest)
    | .parenthesis =>
      if change.on.isEmpty && change.off.isEmpty then none
      let ignoreSpace := (change.state? .ignoreSpace).getD reader.ignoreSpace
      return ({ reader.push (.flags change) with ignoreSpace }, rest)
  | rest => some (reader.enter true ⟨[], []⟩, rest)

/-- Closes the innermost group. -/
def closeGroup (reader : Reader) : Option Reader :=
  match reader.enclosing with
  | [] => none
  | outer :: enclosing =>
    let group := Tree.group reader.level.captures reader.level.change reader.level.contents
    let ignoreSpace := reader.level.ignoreSpaceAfter
    some ({ reader with ignoreSpace, level := outer, enclosing }.push group)

/-- Ends an alternative. -/
def alternate (reader : Reader) : Reader :=
  let ended := GroupLevel.sequence reader.level.items
  { reader with
    level := { reader.level with alternatives := ended :: reader.level.alternatives, items := [] } }

/-- Repeats the last item. There must be one, and flags are none. -/
def repeatLast (reader : Reader) (count : Count) : Option Reader :=
  match reader.level.items with
  | [] | .flags _ :: _ => none
  | last :: init =>
    some { reader with level := { reader.level with items := .repetition count last :: init } }

/-- Repeats the last item by a sign. A question mark right after the sign belongs to it. -/
def repeatSign (reader : Reader) (count : Count) (rest : List Char) : Option (Reader × List Char) := do
  let reader ← reader.repeatLast count
  match rest with
  | '?' :: rest => return (reader, rest)
  | rest => return (reader, rest)

/-- Opens a bracket, and reads the sign of a complement. -/
def openBracket (reader : Reader) (rest : List Char) : Option (Reader × List Char) :=
  match skip reader.ignoreSpace rest with
  | '^' :: rest => some ({ reader with brackets := ⟨true, true, none, none⟩ :: reader.brackets }, rest)
  | rest => some ({ reader with brackets := ⟨false, true, none, none⟩ :: reader.brackets }, rest)

/-- Closes the innermost bracket. -/
def closeBracket (reader : Reader) (level : ClassLevel) (outer : List ClassLevel) : Reader :=
  match outer with
  | [] => { reader with brackets := [] }.push (.bracketed level.contents level.negated)
  | parent :: brackets =>
    { reader with brackets := parent.add (.bracketed level.contents level.negated) :: brackets }

/-- Reads inside brackets, where `c` is the next character. -/
def classStep (reader : Reader) (level : ClassLevel) (outer : List ClassLevel) (c : Char)
    (rest : List Char) : Option (Reader × List Char) :=
  let continueWith := fun (level : ClassLevel) (rest : List Char) =>
    some ({ reader with brackets := level :: outer }, rest)
  if level.leading && c = '-' then continueWith (level.add (.literal ⟨'-', false⟩)) rest
  else
    let first := level.leading && level.items.isNone
    let level := { level with leading := false }
    match c, rest with
    | ']', rest =>
      if first then continueWith (level.add (.literal ⟨']', false⟩)) rest
      else some (reader.closeBracket level outer, rest)
    | '[', rest =>
      match namedClass rest with
      | some (named, rest) => continueWith (level.add named) rest
      | none => { reader with brackets := level :: outer }.openBracket rest
    | '&', '&' :: rest => continueWith (level.combine .intersection) rest
    | '-', '-' :: rest => continueWith (level.combine .difference) rest
    | '~', '~' :: rest => continueWith (level.combine .symmetricDifference) rest
    | c, rest => do
      let (item, rest) ← classRange reader.ignoreSpace c rest
      continueWith (level.add item) rest

/-- Reads one item, sign or bracket, where `c` is the next character. -/
def step (reader : Reader) (c : Char) (rest : List Char) : Option (Reader × List Char) :=
  match reader.brackets with
  | level :: outer => reader.classStep level outer c rest
  | [] =>
    match c with
    | '(' => reader.openGroup rest
    | ')' => reader.closeGroup.map fun reader => (reader, rest)
    | '|' => some (reader.alternate, rest)
    | '[' => reader.openBracket rest
    | '?' => reader.repeatSign ⟨0, some 1⟩ rest
    | '*' => reader.repeatSign ⟨0, none⟩ rest
    | '+' => reader.repeatSign ⟨1, none⟩ rest
    | '{' => do
      let (count, rest) ← count reader.ignoreSpace rest
      return (← reader.repeatLast count, rest)
    | c => do
      let (atom, rest) ← atom reader.ignoreSpace c rest
      return (reader.push atom.tree, rest)

/-- Ends the reading. Every group and bracket must be closed. -/
def finish (reader : Reader) : Option Tree :=
  match reader.enclosing, reader.brackets with
  | [], [] => some reader.level.contents
  | _, _ => none

/-- Reads on, in at most `steps` steps. -/
def run (reader : Reader) (rest : List Char) : (steps : Nat) → Option Tree
  | 0 => if rest.isEmpty then reader.finish else none
  | steps + 1 =>
    match skip reader.ignoreSpace rest with
    | [] => reader.finish
    | c :: rest => do
      let (reader, rest) ← reader.step c rest
      reader.run rest steps

end Reader

/-- The tree of a pattern, if it is well formed and does not nest too deeply. -/
def Tree.parse? (pattern : List Char) : Option Tree := do
  let tree ← Reader.start.run pattern (pattern.length + 1)
  if tree.nesting .none ≤ nestLimit then return tree else none

end LinkSieve.Regex
