/-!
# JSON documents

Results are written as JSON with two spaces of indentation and with the members of an object in order
of their names. Numbers are natural numbers. In strings only quotes, backslashes and control characters
are escaped.
-/

namespace LinkSieve

/-- A JSON value. -/
inductive Json where
  | null
  | bool (value : Bool)
  | num (value : Nat)
  | str (value : String)
  | arr (items : List Json)
  | obj (members : List (String × Json))

namespace Json

/-- An object with its members in order of their names. -/
def object (members : List (String × Json)) : Json :=
  obj (members.mergeSort fun left right => left.1 ≤ right.1)

/-- An array of strings. -/
def strings (values : List String) : Json := arr (values.map str)

/-- A hexadecimal digit in lower case. -/
def hexDigit (value : Nat) : Char :=
  if value < 10 then Char.ofNat ('0'.toNat + value) else Char.ofNat ('a'.toNat + (value - 10))

/-- A character inside a string. -/
def escape (c : Char) : List Char :=
  if c = '"' then ['\\', '"']
  else if c = '\\' then ['\\', '\\']
  else if c = '\x08' then ['\\', 'b']
  else if c = '\x0c' then ['\\', 'f']
  else if c = '\n' then ['\\', 'n']
  else if c = '\r' then ['\\', 'r']
  else if c = '\t' then ['\\', 't']
  else if c.toNat < 0x20 then
    ['\\', 'u', '0', '0', hexDigit (c.toNat / 16), hexDigit (c.toNat % 16)]
  else [c]

/-- A string with its quotes. -/
def quote (text : String) : String :=
  String.ofList ('"' :: text.toList.flatMap escape ++ ['"'])

/-- A line break with the given indentation after it. -/
def lineBreak (indent : Nat) : String := String.ofList ('\n' :: List.replicate indent ' ')

/-- Items between brackets, each on a line of its own. Without items nothing stands between them. -/
def enclose (opening closing : String) (indent : Nat) (items : List String) : String :=
  if items.isEmpty then opening ++ closing
  else
    opening ++ lineBreak (indent + 2) ++
      ("," ++ lineBreak (indent + 2)).intercalate items ++ lineBreak indent ++ closing

/-- The text of a value that begins on a line with the given indentation. -/
def render (indent : Nat) : Json → String
  | null => "null"
  | bool value => if value then "true" else "false"
  | num value => toString value
  | str value => quote value
  | arr items => enclose "[" "]" indent (items.attach.map fun ⟨item, _⟩ => item.render (indent + 2))
  | obj members =>
    enclose "\x7b" "\x7d" indent (members.attach.map fun ⟨(name, value), _⟩ =>
      quote name ++ ": " ++ value.render (indent + 2))
termination_by value => sizeOf value
decreasing_by
  · have smaller := List.sizeOf_lt_of_mem ‹item ∈ items›
    simp only [arr.sizeOf_spec]
    omega
  · have smaller := List.sizeOf_lt_of_mem ‹(name, value) ∈ members›
    simp only [Prod.mk.sizeOf_spec] at smaller
    simp only [obj.sizeOf_spec]
    omega

/-- A document. -/
def pretty (value : Json) : String := value.render 0

end Json

end LinkSieve
