import Mathlib.Data.List.TakeDrop
import Mathlib.Data.List.TakeWhile
import LinkSieve.Expression.Definition
import LinkSieve.Text.Cut
import LinkSieve.Proofs.Expression.PatternTable
/-!
# Written definitions

A written definition is cut at its first equals sign, and it is read exactly if a table would take what
is on the two sides. Which table that is makes no difference. So definitions that were read are never
refused later, and a table that was valid stays valid under them. Each name stands for the pattern of
the last definition that has it.
-/

namespace LinkSieve.Expression

open LinkSieve.Text

namespace Definition

/-- Where a definition is cut: at its first equals sign. -/
theorem span_of_not_mem {name : List Char} (absent : '=' ∉ name) (rest : List Char)
    (begins : ∀ c ∈ rest.head?, c = '=') : (name ++ rest).span (· ≠ '=') = (name, rest) := by
  have kept : ∀ c ∈ name, decide (c ≠ '=') = true := by
    intro c member
    rw [decide_eq_true_eq]
    rintro rfl
    exact absent member
  have stops : ∀ c ∈ rest.head?, decide (c ≠ '=') = false := by simpa using begins
  rw [List.span_eq_takeWhile_dropWhile, takeWhile_stretch kept stops, dropWhile_stretch kept stops]

/-- Without an equals sign there is no definition. -/
theorem parse_of_not_mem {text : String} (absent : '=' ∉ text.toList) :
    parse text = .error (.missingSeparator text) := by
  have uncut := span_of_not_mem absent [] (by simp)
  rw [List.append_nil] at uncut
  rw [parse, uncut]

/-- A definition is read as a table takes it, with the same error if the table does not. -/
theorem parse_eq_define {text : String} {name pattern : List Char} (first : '=' ∉ name)
    (written : text.toList = name ++ '=' :: pattern) (table : PatternTable) :
    parse text =
      (table.define (String.ofList (trim name)) (String.ofList pattern)).map fun _ =>
        ⟨String.ofList (trim name), String.ofList pattern⟩ := by
  rw [parse, written, span_of_not_mem first _ (by simp), PatternTable.define]
  dsimp only
  cases validateEntry (String.ofList (trim name)) (String.ofList pattern) <;> rfl

/-- A definition is read exactly if it has an equals sign and every table takes the text before the
first one, without white space around it, as a name, and the text after it as a pattern. These are what
it defines. -/
theorem parse_eq_ok_iff (text : String) (table : PatternTable) (definition : Definition) :
    parse text = .ok definition ↔
      ∃ name pattern, text.toList = name ++ '=' :: pattern ∧ '=' ∉ name ∧
        definition = ⟨String.ofList (trim name), String.ofList pattern⟩ ∧
        ∃ next, table.define definition.name definition.pattern = .ok next := by
  constructor
  · intro read
    by_cases equals : '=' ∈ text.toList
    · obtain ⟨name, pattern, written, first⟩ := List.eq_append_cons_of_mem equals
      rw [parse_eq_define first written table] at read
      cases defined : table.define (String.ofList (trim name)) (String.ofList pattern) with
      | error error =>
        rw [defined] at read
        cases read
      | ok next =>
        rw [defined] at read
        cases read
        exact ⟨name, pattern, written, first, rfl, next, defined⟩
    · rw [parse_of_not_mem equals] at read
      cases read
  · rintro ⟨name, pattern, written, first, rfl, next, defined⟩
    rw [parse_eq_define first written table, defined]
    rfl

/-- White space is dropped around a name and kept around a pattern, which may have equals signs. -/
example : parse " a = x=y " = .ok ⟨"a", " x=y "⟩ := by decide +kernel

/-- A definition with an equals sign fails as defining its two sides does. -/
theorem parse_eq_error_iff {text : String} {name pattern : List Char} (first : '=' ∉ name)
    (written : text.toList = name ++ '=' :: pattern) (table : PatternTable)
    (error : DefinitionError) :
    parse text = .error error ↔
      table.define (String.ofList (trim name)) (String.ofList pattern) = .error error := by
  rw [parse_eq_define first written table]
  cases table.define (String.ofList (trim name)) (String.ofList pattern) <;> simp [Except.map]

/-- What was read is taken by every table. -/
theorem define_of_parse {text : String} {definition : Definition}
    (read : parse text = .ok definition) (table : PatternTable) :
    table.define definition.name definition.pattern =
      .ok (table.insert definition.name definition.pattern) := by
  obtain ⟨-, -, -, -, -, next, defined⟩ := (parse_eq_ok_iff text table definition).mp read
  rw [defined, (PatternTable.define_eq_ok_iff.mp defined).2]

end Definition

end LinkSieve.Expression
