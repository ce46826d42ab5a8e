import LinkSieve.Text.Cut
/-!
# Claiming file names

The files of a run lie in one directory. A name is claimed before its link is fetched and never given
back, so no two links share a file. Where a name is taken, a number goes before its extension.
-/

namespace LinkSieve.Harvest

open LinkSieve.Text

/-- Cuts a file name before its last dot. A name without a dot, or with its only dot at the beginning,
has no extension. -/
def splitExtension (name : List Char) : List Char × List Char :=
  match throughLast '.' name with
  | [] | ['.'] => (name, [])
  | through => (through.dropLast, '.' :: afterLast '.' name)

/-- A file name with a number before its extension. -/
def numbered (name : String) (number : Nat) : String :=
  let (stem, extension) := splitExtension name.toList
  String.ofList (stem ++ '-' :: (toString number).toList ++ extension)

/-- The name to use in place of one that may be taken: itself, or the first free one of its numbered
variants. Among one more variant than there are taken names, one is free. The numbers are unbounded here.
With fewer than 2 ^ 31 names taken, counting in 32 bits finds the same variant. -/
def freeName (taken : List String) (name : String) : String :=
  if name ∉ taken then name
  else
    (((List.range' 1 (taken.length + 1)).map (numbered name)).find? fun candidate =>
      candidate ∉ taken).getD name

end LinkSieve.Harvest
