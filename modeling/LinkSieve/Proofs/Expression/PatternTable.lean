import Mathlib.Control.Monad.Basic
import LinkSieve.Expression.PatternTable
import LinkSieve.Proofs.Steps
/-!
# Tables that stay valid

What is defined is checked before it gets into a table, and what is copied from another table was
checked there. So a valid table stays valid, whatever is done to it and in whatever order, although
copying checks nothing. A definition that is refused leaves the table alone.

The tables that pass the check are those that definitions build from nothing.
-/

namespace LinkSieve.Expression

/-! ## Looking names up -/

/-- The first entry decides for its own name only. -/
theorem lookup_cons_eq_ite (entry : String × String) (rest : List (String × String))
    (name : String) :
    (entry :: rest).lookup name = if name = entry.1 then some entry.2 else rest.lookup name := by
  by_cases same : name = entry.1
  · rw [List.lookup_cons, beq_iff_eq.mpr same, if_pos same]
  · rw [List.lookup_cons, beq_false_of_ne same, if_neg same]

/-- An insertion sets its own name, and no other. -/
theorem lookup_insertEntry (name pattern asked : String) (entries : List (String × String)) :
    (insertEntry name pattern entries).lookup asked =
      if asked = name then some pattern else entries.lookup asked := by
  induction entries with
  | nil => exact lookup_cons_eq_ite (name, pattern) [] asked
  | cons entry rest inductionHypothesis =>
    unfold insertEntry
    split
    next => exact lookup_cons_eq_ite (name, pattern) (entry :: rest) asked
    next notBefore =>
      split
      next after =>
        rw [lookup_cons_eq_ite, inductionHypothesis, lookup_cons_eq_ite]
        by_cases same : asked = entry.1
        · have distinct : asked ≠ name := by
            rw [same]
            exact String.ne_of_lt after
          rw [if_pos same, if_neg distinct, if_pos same]
        · rw [if_neg same, if_neg same]
      next notAfter =>
        obtain rfl : name = entry.1 := String.le_antisymm
          (String.not_lt.mp notAfter) (String.not_lt.mp notBefore)
        rw [lookup_cons_eq_ite, lookup_cons_eq_ite]
        by_cases same : asked = entry.1
        · rw [if_pos same, if_pos same]
        · rw [if_neg same, if_neg same, if_neg same]

namespace PatternTable

variable {table other : PatternTable} {name pattern : String}

/-- An inserted entry is found under its name, and the others as before. -/
@[simp] theorem get?_insert (table : PatternTable) (name pattern asked : String) :
    (table.insert name pattern).get? asked =
      if asked = name then some pattern else table.get? asked :=
  lookup_insertEntry name pattern asked table.entries

/-- After entries were inserted, a name stands for the pattern of its entry, if it has one. -/
theorem get?_foldl_insert {entries : List (String × String)}
    (ordered : entries.Pairwise (·.1 < ·.1)) (table : PatternTable) (name : String) :
    (entries.foldl (fun table entry => table.insert entry.1 entry.2) table).get? name =
      (entries.lookup name).or (table.get? name) := by
  induction entries generalizing table with
  | nil => rfl
  | cons entry rest inductionHypothesis =>
    obtain ⟨before, ordered⟩ := List.pairwise_cons.mp ordered
    rw [List.foldl_cons, inductionHypothesis ordered, get?_insert, lookup_cons_eq_ite]
    by_cases same : name = entry.1
    · -- The names that come later are greater, so the entry is the only one with this name.
      have absent : rest.lookup name = none := by
        refine List.lookup_eq_none_iff.mpr fun later member => bne_iff_ne.mpr fun again => ?_
        have greater := before later member
        rw [← same, ← again] at greater
        exact String.lt_irrefl name greater
      rw [if_pos same, if_pos same, absent, Option.none_or, Option.some_or]
    · rw [if_neg same, if_neg same]

/-- What both tables define is taken from the one that was copied. -/
theorem get?_extend (table other : PatternTable) (name : String) :
    (table.extend other).get? name = (other.get? name).or (table.get? name) :=
  get?_foldl_insert other.ordered table name

/-! ## Valid tables -/

/-- A table passes the check exactly if each of its entries does. -/
theorem validate_eq_ok_iff (table : PatternTable) :
    table.validate = .ok () ↔ ∀ entry ∈ table.entries, validateEntry entry.1 entry.2 = .ok () := by
  unfold validate
  induction table.entries with
  | nil => simp [pure, Except.pure]
  | cons entry rest inductionHypothesis =>
    rw [List.forM_eq_forM, List.forM_cons, List.forall_mem_cons, ← inductionHypothesis]
    cases validateEntry entry.1 entry.2 <;> simp [bind, Except.bind]

/-- An acceptable entry keeps a table valid. -/
theorem validate_insert (valid : table.validate = .ok ())
    (accepted : validateEntry name pattern = .ok ()) :
    (table.insert name pattern).validate = .ok () := by
  rw [validate_eq_ok_iff] at valid ⊢
  intro entry member
  rcases mem_insertEntry member with rfl | old
  · exact accepted
  · exact valid entry old

/-- Acceptable entries keep a table valid. -/
theorem validate_foldl_insert {entries : List (String × String)}
    (accepted : ∀ entry ∈ entries, validateEntry entry.1 entry.2 = .ok ())
    (valid : table.validate = .ok ()) :
    (entries.foldl (fun table entry => table.insert entry.1 entry.2) table).validate = .ok () := by
  induction entries generalizing table with
  | nil => exact valid
  | cons entry rest inductionHypothesis =>
    rw [List.forall_mem_cons] at accepted
    exact inductionHypothesis accepted.2 (validate_insert valid accepted.1)

/-- The entries of a valid table keep a table valid, though none of them is checked again. -/
theorem validate_extend (valid : table.validate = .ok ()) (source : other.validate = .ok ()) :
    (table.extend other).validate = .ok () :=
  validate_foldl_insert ((validate_eq_ok_iff other).mp source) valid

/-- A definition succeeds exactly if its entry is acceptable, and then the entry is inserted. -/
theorem define_eq_ok_iff {next : PatternTable} :
    table.define name pattern = .ok next ↔
      validateEntry name pattern = .ok () ∧ table.insert name pattern = next := by
  unfold define
  cases validateEntry name pattern <;> simp [bind, Except.bind, pure, Except.pure]

/-- An entry whose name is greater than all others comes last. -/
theorem insertEntry_append {entries : List (String × String)} {name pattern : String}
    (greatest : ∀ entry ∈ entries, entry.1 < name) :
    insertEntry name pattern entries = entries ++ [(name, pattern)] := by
  induction entries with
  | nil => rfl
  | cons entry rest inductionHypothesis =>
    obtain ⟨before, greatest⟩ := List.forall_mem_cons.mp greatest
    rw [insertEntry, if_neg (String.lt_asymm before), if_pos before,
      inductionHypothesis greatest, List.cons_append]

/-- Makes definitions one after the other. The first that fails ends it. -/
def defineAll (table : PatternTable) (definitions : List (String × String)) :
    Except DefinitionError PatternTable :=
  definitions.foldlM (fun table entry => table.define entry.1 entry.2) table

/-- The entries that a table has beyond those of another one, in their order, are definitions that
make this table of the other one. -/
theorem defineAll_eq_ok {rest : List (String × String)}
    (ends : other.entries = table.entries ++ rest)
    (accepted : ∀ entry ∈ rest, validateEntry entry.1 entry.2 = .ok ()) :
    table.defineAll rest = .ok other := by
  induction rest generalizing table with
  | nil =>
    obtain ⟨entries, _⟩ := table
    obtain ⟨others, _⟩ := other
    obtain rfl : others = entries := ends.trans (List.append_nil entries)
    rfl
  | cons entry rest inductionHypothesis =>
    rw [List.forall_mem_cons] at accepted
    have ordered : (table.entries ++ entry :: rest).Pairwise (·.1 < ·.1) := ends ▸ other.ordered
    have greatest : ∀ earlier ∈ table.entries, earlier.1 < entry.1 := fun earlier member =>
      (List.pairwise_append.mp ordered).2.2 earlier member entry List.mem_cons_self
    have inserted : (table.insert entry.1 entry.2).entries = table.entries ++ [entry] :=
      insertEntry_append greatest
    rw [defineAll, List.foldlM_cons, define_eq_ok_iff.mpr ⟨accepted.1, rfl⟩]
    refine inductionHypothesis ?_ accepted.2
    rw [ends, inserted, List.append_assoc, List.singleton_append]

/-- Definitions that all succeed keep a table valid. -/
theorem validate_of_defineAll {definitions : List (String × String)} {built : PatternTable}
    (valid : table.validate = .ok ()) (succeeded : table.defineAll definitions = .ok built) :
    built.validate = .ok () := by
  induction definitions generalizing table with
  | nil =>
    cases succeeded
    exact valid
  | cons entry rest inductionHypothesis =>
    obtain ⟨next, defined, others⟩ := exists_of_bind_eq_ok succeeded
    obtain ⟨accepted, rfl⟩ := define_eq_ok_iff.mp defined
    exact inductionHypothesis (validate_insert valid accepted) others

/-- A table is valid exactly if it can be built from nothing by definitions that all succeed. -/
theorem validate_iff_exists_definitions (table : PatternTable) :
    table.validate = .ok () ↔ ∃ definitions, empty.defineAll definitions = .ok table := by
  constructor
  · intro valid
    exact ⟨table.entries, defineAll_eq_ok rfl ((validate_eq_ok_iff table).mp valid)⟩
  · rintro ⟨definitions, succeeded⟩
    exact validate_of_defineAll rfl succeeded

end PatternTable

/-! ## Changes -/

/-- What can be done to a table. -/
inductive Change where
  | define (name pattern : String)
  | extend (other : PatternTable)

namespace Change

/-- Changes the table in place. An entry is set as soon as nothing speaks against it, and what was
set before a failure stays. -/
def perform : Change → ExceptT DefinitionError (StateM PatternTable) Unit
  | define name pattern => do
    validateEntry name pattern
    modify (·.insert name pattern)
  | extend other => other.entries.forM fun entry => modify (·.insert entry.1 entry.2)

/-- The pattern that a change has for a name. -/
def pattern? (name : String) : Change → Option String
  | define defined pattern => if name = defined then some pattern else none
  | extend other => other.get? name

/-- Performs changes one after the other, also those after one that failed, and records what came of
each. -/
def performAll (changes : List Change) :
    StateM PatternTable (List (Change × Except DefinitionError Unit)) :=
  changes.mapM fun change => return (change, ← change.perform.run)

/-- The pattern that the last successful change that set the name has for it. -/
def lastSet (name : String) (records : List (Change × Except DefinitionError Unit)) :
    Option String :=
  records.reverse.findSome? fun record => if record.2.isOk then record.1.pattern? name else none

variable {table next : PatternTable} {outcome : Except DefinitionError Unit}

/-- A definition in place either succeeds and gives the same table as `define`, or it fails as
`define` does, and leaves the table alone. -/
theorem perform_define {name pattern : String}
    (performed : ((define name pattern).perform.run).run table = (outcome, next)) :
    outcome = .ok () ∧ table.define name pattern = .ok next ∨
      ∃ error, outcome = .error error ∧ next = table ∧
        table.define name pattern = .error error := by
  cases checked : validateEntry name pattern with
  | error error =>
    have refused : table.define name pattern = .error error := by
      unfold PatternTable.define
      rw [checked]
      rfl
    have unchanged : ((define name pattern).perform.run).run table = (.error error, table) := by
      simp only [perform, checked]
      rfl
    cases performed.symm.trans unchanged
    exact Or.inr ⟨error, rfl, rfl, refused⟩
  | ok =>
    have inserted : ((define name pattern).perform.run).run table =
        (.ok (), table.insert name pattern) := by
      simp only [perform, checked]
      rfl
    cases performed.symm.trans inserted
    exact Or.inl ⟨rfl, PatternTable.define_eq_ok_iff.mpr ⟨checked, rfl⟩⟩

/-- Copying in place succeeds and gives the same table as `extend`. -/
theorem perform_extend (table other : PatternTable) :
    ((extend other).perform.run).run table = (.ok (), table.extend other) := by
  simp only [perform, PatternTable.extend]
  induction other.entries generalizing table with
  | nil => rfl
  | cons entry rest inductionHypothesis => exact inductionHypothesis (table.insert entry.1 entry.2)

/-- A change keeps a table valid, if what it copies is valid. -/
theorem validate_of_perform {change : Change}
    (performed : (change.perform.run).run table = (outcome, next))
    (source : ∀ other, change = .extend other → other.validate = .ok ())
    (valid : table.validate = .ok ()) : next.validate = .ok () := by
  cases change with
  | define name pattern =>
    rcases perform_define performed with ⟨_, defined⟩ | ⟨_, _, rfl, _⟩
    · obtain ⟨accepted, rfl⟩ := PatternTable.define_eq_ok_iff.mp defined
      exact PatternTable.validate_insert valid accepted
    · exact valid
  | extend other =>
    cases (perform_extend table other).symm.trans performed
    exact PatternTable.validate_extend valid (source other rfl)

/-- A change that succeeds sets the names that it has patterns for, and one that fails sets none. -/
theorem get?_of_perform {change : Change}
    (performed : (change.perform.run).run table = (outcome, next)) (name : String) :
    next.get? name = (lastSet name [(change, outcome)]).or (table.get? name) := by
  cases change with
  | define defined pattern =>
    rcases perform_define performed with ⟨rfl, succeeded⟩ | ⟨_, rfl, rfl, _⟩
    · obtain ⟨_, rfl⟩ := PatternTable.define_eq_ok_iff.mp succeeded
      rw [PatternTable.get?_insert]
      by_cases same : name = defined <;> simp [lastSet, pattern?, Except.isOk, Except.toBool, same]
    · rfl
  | extend other =>
    cases (perform_extend table other).symm.trans performed
    rw [PatternTable.get?_extend]
    simp [lastSet, pattern?, Except.isOk, Except.toBool]

/-- The later records decide before the earlier ones. -/
theorem lastSet_cons (name : String) (record : Change × Except DefinitionError Unit)
    (records : List (Change × Except DefinitionError Unit)) :
    lastSet name (record :: records) = (lastSet name records).or (lastSet name [record]) := by
  simp [lastSet, List.findSome?_append]

/-- The first change is performed, and then the others on what it left. -/
theorem exists_of_performAll_cons {change : Change} {changes : List Change}
    {records : List (Change × Except DefinitionError Unit)}
    (performed : (performAll (change :: changes)).run table = (records, next)) :
    ∃ outcome between others, (change.perform.run).run table = (outcome, between) ∧
      (performAll changes).run between = (others, next) ∧
      records = (change, outcome) :: others := by
  rw [performAll, List.mapM_cons] at performed
  cases performed
  exact ⟨_, _, _, rfl, rfl, rfl⟩

/-- A sequence of changes keeps a table valid, if what it copies is valid. -/
theorem validate_of_performAll {changes : List Change}
    {records : List (Change × Except DefinitionError Unit)}
    (performed : (performAll changes).run table = (records, next))
    (sources : ∀ other, .extend other ∈ changes → other.validate = .ok ())
    (valid : table.validate = .ok ()) : next.validate = .ok () := by
  induction changes generalizing table records with
  | nil =>
    cases performed
    exact valid
  | cons change changes inductionHypothesis =>
    obtain ⟨outcome, between, others, first, remaining, -⟩ := exists_of_performAll_cons performed
    have validBetween : between.validate = .ok () :=
      validate_of_perform first (fun other same => sources other (same ▸ List.mem_cons_self)) valid
    exact inductionHypothesis remaining
      (fun other member => sources other (List.mem_cons_of_mem change member)) validBetween

/-- After a sequence of changes, a name stands for what the last of them that set it set it to. -/
theorem get?_of_performAll {changes : List Change}
    {records : List (Change × Except DefinitionError Unit)}
    (performed : (performAll changes).run table = (records, next)) (name : String) :
    next.get? name = (lastSet name records).or (table.get? name) := by
  induction changes generalizing table records with
  | nil =>
    cases performed
    rfl
  | cons change changes inductionHypothesis =>
    obtain ⟨outcome, between, others, first, remaining, rfl⟩ := exists_of_performAll_cons performed
    rw [inductionHypothesis remaining, get?_of_perform first, ← Option.or_assoc, ← lastSet_cons]

/-- A valid table stays valid, whatever is done to it. From a table that passes the check,
definitions are attempted and tables that pass it are copied, in any order. Then the table at hand
passes the check, and in it each name stands for what the last successful change set it to, or else
for what it stood for at the start. A definition that comes next succeeds as `define` does, or it
fails and leaves the table as it is. Tables pass the check exactly if definitions that all succeed
build them from nothing. -/
theorem performAll_keeps_valid {start table : PatternTable} {changes : List Change}
    {records : List (Change × Except DefinitionError Unit)} (valid : start.validate = .ok ())
    (sources : ∀ other, .extend other ∈ changes → other.validate = .ok ())
    (performed : (performAll changes).run start = (records, table)) :
    table.validate = .ok () ∧
    (∀ name, table.get? name = (lastSet name records).or (start.get? name)) ∧
    (∀ name pattern outcome next,
      ((Change.define name pattern).perform.run).run table = (outcome, next) →
      outcome = .ok () ∧ table.define name pattern = .ok next ∨
      ∃ error, outcome = .error error ∧ next = table ∧
        table.define name pattern = .error error) ∧
    ∀ built : PatternTable, built.validate = .ok () ↔
      ∃ definitions, PatternTable.empty.defineAll definitions = .ok built := by
  refine ⟨?_, ?_, ?_, ?_⟩
  · exact validate_of_performAll performed sources valid
  · exact get?_of_performAll performed
  · intro name pattern outcome next
    exact perform_define
  · exact PatternTable.validate_iff_exists_definitions

/-- An empty pattern and a name that spells an operator are refused in between, and a copied entry
replaces an older one. -/
theorem performAll_keeps_valid_refused :
    let start := PatternTable.ofList [("cat", "a")]
    let changes : List Change := [.define "cat" "b", .define "cat" "",
      .extend (.ofList [("cat", "c"), ("dog", "d")]), .define "Not" "x"]
    let records := ((performAll changes).run start).1
    let table := ((performAll changes).run start).2
    records.map (·.2) =
        [.ok (), .error (.emptyPattern "cat"), .ok (), .error (.reservedName "Not")] ∧
      table.entries = [("cat", "c"), ("dog", "d")] ∧ table.validate = .ok () ∧
      table.get? "cat" = (lastSet "cat" records).or (start.get? "cat") := by
  intro start changes records table
  have valid : start.validate = .ok () := by decide +kernel
  have sources : ∀ other, .extend other ∈ changes → other.validate = .ok () := by
    intro other member
    obtain rfl : other = .ofList [("cat", "c"), ("dog", "d")] := by simpa [changes] using member
    decide +kernel
  obtain ⟨stays, lookups, -⟩ := performAll_keeps_valid valid sources
    (show (performAll changes).run start = (records, table) from rfl)
  exact ⟨by decide +kernel, by decide +kernel, stays, lookups "cat"⟩

end Change

end LinkSieve.Expression
