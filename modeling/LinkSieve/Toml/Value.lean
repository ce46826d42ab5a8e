/-!
# TOML values

A document is a table of values. Tables remember how they came about, because that decides what may be
added to them later: a table under a header may not get a second header, a table that a dotted key
created may not get a header at all, and a table between braces is complete.

Floating-point numbers and times are recognised and then told from other values only; no configuration
has one.
-/

namespace LinkSieve.Toml

/-- How a table came about. -/
inductive TableKind where
  /-- The whole document, a table under a header, or an element of an array of tables. -/
  | headed
  /-- A table that a longer header passed through. -/
  | implied
  /-- A table that a dotted key passed through. -/
  | dotted
  /-- A table between braces. -/
  | inline
  deriving Repr, DecidableEq

/-- A value. -/
inductive Value where
  | string (text : String)
  | integer (value : Int)
  | float
  | boolean (value : Bool)
  | datetime
  | array (items : List Value)
  | table (kind : TableKind) (entries : List (String × Value))
  /-- An array of tables under headers, the last one first. -/
  | tables (elements : List (List (String × Value)))
  deriving Repr

/-- The entries of a table. No key occurs twice. -/
abbrev Entries := List (String × Value)

/-- Sets the value of a key in place, or adds the key at the end. -/
def Entries.set (key : String) (value : Value) : Entries → Entries
  | [] => [(key, value)]
  | entry :: rest =>
    if entry.1 = key then (key, value) :: rest else entry :: Entries.set key value rest

end LinkSieve.Toml
