import LinkSieve.Unicode.CharSet
import LinkSieve.Unicode.GeneralCategory
import LinkSieve.Unicode.Script
import LinkSieve.Unicode.ScriptExtension
import LinkSieve.Unicode.BinaryProperty
import LinkSieve.Unicode.Age
import LinkSieve.Unicode.Segmentation
/-!
# Properties by name

Patterns name sets of characters by a property, or by a property and its value. Names are compared
loosely: case, spaces, underscores and hyphens are ignored, a leading `is` is dropped, and characters
beyond ASCII are ignored too. A bare name is looked up among the binary properties first, then among
the general categories and then among the scripts.
-/

namespace LinkSieve.Unicode

/-- A name in the form that is compared. A leading `is` is kept in the one name that needs it. -/
def looseName (name : List Char) : List Char :=
  let prefixed := name.length ≥ 2 && (name.take 2).map Char.toLower = ['i', 's']
  let bare := if prefixed then name.drop 2 else name
  let loose := (bare.filter fun c => c.toNat < 0x80 && c != ' ' && c != '_' && c != '-').map
    Char.toLower
  if prefixed && loose = ['c'] then ['i', 's', 'c'] else loose

/-- The members column of the first entry that has a name. -/
def lookup? (table : List (List String × String)) (name : String) : Option CharSet :=
  (table.find? fun entry => entry.1.contains name).map fun entry => .ofText entry.2

/-- The members of a category that is not a union of others, and nothing for other names. -/
def categoryMembers (name : String) : CharSet := (lookup? categoryTable name).getD .empty

/-- All code points with a category other than Unassigned. Surrogates are among them. -/
def assignedSet : CharSet :=
  .unions (⟨[(0xD800, 0xDFFF)]⟩ :: categoryTable.map fun entry => .ofText entry.2)

/-- A set by the name of a general category, with the three sets that are named like one. The
category of surrogates has no characters and is not offered. -/
def category? (name : String) : Option CharSet :=
  match name with
  | "any" => some .full
  | "assigned" => some assignedSet
  | "ascii" => some ⟨[(0, 0x7F)]⟩
  | "cn" | "unassigned" => some assignedSet.complement
  | "c" | "other" =>
    some (.unions [categoryMembers "cc", categoryMembers "cf", categoryMembers "co",
      assignedSet.complement])
  | name =>
    match categoryGroups.find? fun group => group.1.contains name with
    | some group => some (.unions (group.2.map categoryMembers))
    | none => lookup? categoryTable name

/-- The listed members of a binary property. -/
def binaryMembers (name : String) : CharSet := (lookup? binaryTable name).getD .empty

/-- Characters that may begin an identifier. -/
def identifierStart : CharSet :=
  ((CharSet.unions [categoryMembers "lu", categoryMembers "ll", categoryMembers "lt",
      categoryMembers "lm", categoryMembers "lo", categoryMembers "nl",
      binaryMembers "otheridstart"]).diff (binaryMembers "patternsyntax")).diff
    (binaryMembers "patternwhitespace")

/-- Characters that may continue an identifier. -/
def identifierContinue : CharSet :=
  ((CharSet.unions [identifierStart, categoryMembers "mn", categoryMembers "mc", decimalSet,
      categoryMembers "pc", binaryMembers "otheridcontinue"]).diff
    (binaryMembers "patternsyntax")).diff (binaryMembers "patternwhitespace")

/-- Characters whose compatibility form could not continue an identifier. -/
def identifierExceptions : CharSet :=
  .ofText "37A 309B-309C FC5E-FC63 FDFA-FDFB FE70-FE7E/2"

/-- Characters whose compatibility form could not begin an identifier. -/
def identifierStartExceptions : CharSet :=
  identifierExceptions.union (.ofText "E33 EB3 FF9E-FF9F")

/-- Lowercase characters, inside and outside the category. -/
def lowercaseSet : CharSet := (categoryMembers "ll").union (binaryMembers "otherlowercase")

/-- Uppercase characters, inside and outside the category. -/
def uppercaseSet : CharSet := (categoryMembers "lu").union (binaryMembers "otheruppercase")

/-- Characters that extend the one before them. -/
def graphemeExtend : CharSet :=
  .unions [categoryMembers "mn", categoryMembers "me", binaryMembers "othergraphemeextend"]

/-- A set by the name of a binary property. -/
def binary? (name : String) : Option CharSet :=
  match name with
  | "alpha" | "alphabetic" => some alphabeticSet
  | "wspace" | "whitespace" | "space" => some whitespaceSet
  | "lower" | "lowercase" => some lowercaseSet
  | "upper" | "uppercase" => some uppercaseSet
  | "cased" => some (.unions [lowercaseSet, uppercaseSet, categoryMembers "lt"])
  | "math" => some ((categoryMembers "sm").union (binaryMembers "othermath"))
  | "ids" | "idstart" => some identifierStart
  | "idc" | "idcontinue" => some identifierContinue
  | "xids" | "xidstart" => some (identifierStart.diff identifierStartExceptions)
  | "xidc" | "xidcontinue" => some (identifierContinue.diff identifierExceptions)
  | "grext" | "graphemeextend" => some graphemeExtend
  | "grbase" | "graphemebase" =>
    some ((CharSet.unions (categoryTable.filterMap fun entry =>
      if ["cc", "cf", "co", "zl", "zp"].any entry.1.contains then none
      else some (.ofText entry.2))).diff graphemeExtend)
  | name => lookup? binaryTable name

/-- A set by the name of a script. -/
def script? (name : String) : Option CharSet := lookup? scriptTable name

/-- The characters that are used in a script. -/
def scriptExtension? (name : String) : Option CharSet :=
  (lookup? scriptExtensionTable name).or (script? name)

/-- The characters that were assigned in a version or before it. -/
def age? (name : String) : Option CharSet :=
  match ageTable.findIdx? fun entry => entry.1.contains name with
  | some index => some (.unions ((ageTable.take (index + 1)).map fun entry => .ofText entry.2))
  | none => none

/-- A set by a bare name. -/
def property? (name : List Char) : Option CharSet :=
  let name := String.ofList (looseName name)
  if name = "cf" || name = "sc" || name = "lc" then category? name
  else ((binary? name).or (category? name)).or (script? name)

/-- A set by the name of a property and the name of its value. -/
def propertyValue? (property value : List Char) : Option CharSet :=
  let value := String.ofList (looseName value)
  match String.ofList (looseName property) with
  | "gc" | "generalcategory" => category? value
  | "sc" | "script" => script? value
  | "scx" | "scriptextensions" => scriptExtension? value
  | "age" => age? value
  | "gcb" | "graphemeclusterbreak" => lookup? graphemeBreakTable value
  | "wb" | "wordbreak" => lookup? wordBreakTable value
  | "sb" | "sentencebreak" => lookup? sentenceBreakTable value
  | _ => none

end LinkSieve.Unicode
