import LinkSieve.Proofs.Harvest.Execution
import LinkSieve.Proofs.Harvest.FileName
/-!
# Claiming a name

A name is claimed by looking at it and then at its numbered variants, one after the other, until one is
free. No bound is written into that loop. It ends because variants with different numbers are different
names, of which only finitely many are claimed: there are no more looks at variants than there are
claimed names.

The number is a machine integer of 32 bits. Counting it up beyond the largest one, 2147483647, is an
overflow, which is an end of its own here: it claims nothing. It takes more claimed names than there are
such numbers, so up to this many the loop and counting without a bound find the same name.

The loop is stated with a number of looks that it may take, so that not ending is a result of its own.
With enough looks it ends, and with the name that a run gives away.
-/

namespace LinkSieve.Harvest

open LinkSieve.Text

/-! ## The parts of a name -/

/-- The variant of a name that has a machine integer for its number. -/
def variant (name : String) (number : Int32) : String :=
  let (stem, extension) := splitExtension name.toList
  String.ofList stem ++ "-" ++ toString number ++ String.ofList extension

variable {claimed : List String} {name : String} {looks number : Nat}

/-- A name that begins with its only dot is not cut. -/
example : freeName ["a.tar.gz", ".a"] ".a" = ".a-1" := by decide +kernel

end LinkSieve.Harvest
