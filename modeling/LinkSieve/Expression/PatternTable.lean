import LinkSieve.Unicode.Class
import LinkSieve.Expression.Token
/-!
# Named patterns

A table gives names to patterns, so that a bare word in an expression stands for a pattern text.
`define` accepts only names that the lexer can read as one word, and only patterns with at least
one character. A table that was loaded from elsewhere is not checked when it is loaded, which is
what `validate` is for.

The entries are in increasing order of names, and no name occurs twice. Both are part of the type.
-/

namespace LinkSieve.Expression

/-- The characters of a bare word. -/
def isWordChar (c : Char) : Bool :=
  Unicode.isAlphanumeric c || c == '_'

/-- Why a definition is refused. -/
inductive DefinitionError where
  | missingSeparator (definition : String)
  | invalidName (name : String)
  | reservedName (name : String)
  | emptyPattern (name : String)
  deriving Repr, DecidableEq

/-- The wording of a refused definition. -/
def DefinitionError.message : DefinitionError → String
  | missingSeparator definition => "Expected 'NAME=PATTERN', got: " ++ definition
  | invalidName name =>
    "Invalid pattern name '" ++ name ++ "': names are letters, digits and '_'"
  | reservedName name => "'" ++ name ++ "' is a keyword and cannot name a pattern"
  | emptyPattern name => "Pattern '" ++ name ++ "' is empty"

/-- Accepts the words that are not operators. -/
def validateName (name : String) : Except DefinitionError Unit :=
  if name.toList.isEmpty || !name.toList.all isWordChar then .error (.invalidName name)
  else if (Operator.ofWord? name.toList).isSome then .error (.reservedName name)
  else .ok ()

/-- Accepts a valid name with a pattern that has at least one character. A fault of the name is
reported before one of the pattern. -/
def validateEntry (name pattern : String) : Except DefinitionError Unit := do
  validateName name
  if pattern.toList.isEmpty then .error (.emptyPattern name)

/-- Puts an entry into an ordered list of entries, in place of one with the same name. -/
def insertEntry (name pattern : String) : List (String × String) → List (String × String)
  | [] => [(name, pattern)]
  | entry :: rest =>
    if name < entry.1 then (name, pattern) :: entry :: rest
    else if entry.1 < name then entry :: insertEntry name pattern rest
    else (name, pattern) :: rest

/-- Every name of the list after an insertion is the new one or an old one. -/
theorem mem_insertEntry {name pattern : String} {entries : List (String × String)}
    {entry : String × String} (member : entry ∈ insertEntry name pattern entries) :
    entry = (name, pattern) ∨ entry ∈ entries := by
  induction entries with
  | nil => exact Or.inl (List.mem_singleton.mp member)
  | cons head rest inductionHypothesis =>
    unfold insertEntry at member
    split at member
    · exact List.mem_cons.mp member
    · split at member
      · rcases List.mem_cons.mp member with same | inRest
        · exact Or.inr (same ▸ List.mem_cons_self)
        · rcases inductionHypothesis inRest with same | old
          · exact Or.inl same
          · exact Or.inr (List.mem_cons_of_mem head old)
      · rcases List.mem_cons.mp member with same | inRest
        · exact Or.inl same
        · exact Or.inr (List.mem_cons_of_mem head inRest)

/-- Insertion keeps the names in strictly increasing order. -/
theorem insertEntry_ordered {name pattern : String} {entries : List (String × String)}
    (ordered : entries.Pairwise (·.1 < ·.1)) :
    (insertEntry name pattern entries).Pairwise (·.1 < ·.1) := by
  induction entries with
  | nil => exact List.pairwise_singleton _ _
  | cons head rest inductionHypothesis =>
    obtain ⟨headBefore, restOrdered⟩ := List.pairwise_cons.mp ordered
    unfold insertEntry
    split
    next before =>
      refine List.pairwise_cons.mpr ⟨fun entry member => ?_, ordered⟩
      rcases List.mem_cons.mp member with same | inRest
      · exact same ▸ before
      · exact String.lt_trans before (headBefore entry inRest)
    next notBefore =>
      split
      next after =>
        refine List.pairwise_cons.mpr ⟨fun entry member => ?_, inductionHypothesis restOrdered⟩
        rcases mem_insertEntry member with same | inRest
        · exact same ▸ after
        · exact headBefore entry inRest
      next notAfter =>
        have same : name = head.1 := String.le_antisymm
          (String.not_lt.mp notAfter) (String.not_lt.mp notBefore)
        exact List.pairwise_cons.mpr ⟨fun entry member => same ▸ headBefore entry member, restOrdered⟩

/-- Named patterns in increasing order of their names. -/
structure PatternTable where
  entries : List (String × String)
  ordered : entries.Pairwise (·.1 < ·.1)
  deriving Repr

namespace PatternTable

/-- The table without entries. -/
def empty : PatternTable := ⟨[], List.Pairwise.nil⟩

/-- Sets the pattern of a name, whatever both are. -/
def insert (table : PatternTable) (name pattern : String) : PatternTable :=
  ⟨insertEntry name pattern table.entries, insertEntry_ordered table.ordered⟩

/-- A table of unchecked entries; of two entries with one name the later one is kept. -/
def ofList (entries : List (String × String)) : PatternTable :=
  entries.foldl (fun table entry => table.insert entry.1 entry.2) empty

/-- The pattern that a name stands for. -/
def get? (table : PatternTable) (name : String) : Option String :=
  table.entries.lookup name

/-- Sets the pattern of a name, provided that both are acceptable. -/
def define (table : PatternTable) (name pattern : String) :
    Except DefinitionError PatternTable := do
  validateEntry name pattern
  return table.insert name pattern

/-- Checks every entry, in order of names. -/
def validate (table : PatternTable) : Except DefinitionError Unit :=
  table.entries.forM fun entry => validateEntry entry.1 entry.2

/-- Copies every entry of `other` into the table; where a name is in both, `other` decides. -/
def extend (table other : PatternTable) : PatternTable :=
  other.entries.foldl (fun table entry => table.insert entry.1 entry.2) table

/-- The number of names. -/
def size (table : PatternTable) : Nat := table.entries.length

/-- Whether no name is defined. -/
def isEmpty (table : PatternTable) : Bool := table.entries.isEmpty

end PatternTable

end LinkSieve.Expression
