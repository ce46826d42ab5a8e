import Mathlib.Data.List.TakeWhile
import LinkSieve.Json
import LinkSieve.Text.Cut
/-!
# Reading documents back

What a document tells is in its text. A reader of documents is stated here that knows nothing of how
they are laid out: white space may stand before and after each part, members come in any order, and a
character of a string may be escaped or not. Reading the text of a document gives the document again.

Of numbers only the natural ones are read, and an escaped character is one of four hexadecimal digits.
-/

namespace LinkSieve.Json

open LinkSieve.Text

/-! ## The reader -/

/-- White space between the parts of a document. -/
def isSpace (c : Char) : Bool := c = ' ' || c = '\n' || c = '\r' || c = '\t'

/-- The value of a hexadecimal digit. -/
def hexValue? (c : Char) : Option Nat :=
  if c.isDigit then some (c.toNat - '0'.toNat)
  else if 'a' ≤ c ∧ c ≤ 'f' then some (c.toNat - 'a'.toNat + 10)
  else if 'A' ≤ c ∧ c ≤ 'F' then some (c.toNat - 'A'.toNat + 10)
  else none

/-- The character with a number that is written in four hexadecimal digits. -/
def charOfDigits? (first second third fourth : Char) : Option Char := do
  let number := ((← hexValue? first) * 16 + (← hexValue? second)) * 256 +
    ((← hexValue? third) * 16 + (← hexValue? fourth))
  if number.isValidChar then some (Char.ofNat number) else none

/-- The character that stands for another one behind a backslash. -/
def escaped? (c : Char) : Option Char :=
  [('"', '"'), ('\\', '\\'), ('/', '/'), ('b', '\x08'), ('f', '\x0c'), ('n', '\n'), ('r', '\r'),
    ('t', '\t')].lookup c

/-- Reads a string whose opening quote was read. -/
def string? : List Char → Option (List Char × List Char)
  | [] => none
  | '"' :: rest => some ([], rest)
  | '\\' :: 'u' :: first :: second :: third :: fourth :: rest => do
    let c ← charOfDigits? first second third fourth
    let (text, rest) ← string? rest
    return (c :: text, rest)
  | '\\' :: c :: rest => do
    let c ← escaped? c
    let (text, rest) ← string? rest
    return (c :: text, rest)
  | c :: rest => do
    if c = '\\' ∨ c.toNat < 0x20 then none
    let (text, rest) ← string? rest
    return (c :: text, rest)

section Items

variable {α : Type} (item? : List Char → Option (α × List Char)) (closing : Char)

/-- Reads items with commas between them, up to a closing bracket. There are no more than `count`. -/
def items? : (count : Nat) → List Char → Option (List α × List Char)
  | 0, _ => none
  | count + 1, text => do
    let (item, rest) ← item? text
    match rest.dropWhile isSpace with
    | [] => none
    | c :: rest =>
      if c = closing then return ([item], rest)
      else if c = ',' then
        let (items, rest) ← items? count rest
        return (item :: items, rest)
      else none

/-- Reads what stands between brackets, of which the opening one was read. -/
def enclosed? (text : List Char) : Option (List α × List Char) :=
  match text.dropWhile isSpace with
  | [] => none
  | c :: rest => if c = closing then some ([], rest) else items? item? closing text.length text

end Items

/-- Reads a member of an object: a name in quotes, a colon, and a value. -/
def readMember? (value? : List Char → Option (Json × List Char)) (text : List Char) :
    Option ((String × Json) × List Char) :=
  match text.dropWhile isSpace with
  | '"' :: rest => do
    let (name, rest) ← string? rest
    match rest.dropWhile isSpace with
    | ':' :: rest =>
      let (value, rest) ← value? rest
      return ((String.ofList name, value), rest)
    | _ => none
  | _ => none

/-- Reads a natural number. -/
def number? (text : List Char) : Option (Json × List Char) :=
  let digits := text.takeWhile Char.isDigit
  if digits.isEmpty then none
  else some (num (Nat.ofDigitChars 10 digits 0), text.dropWhile Char.isDigit)

/-- Reads a value whose brackets are nested no deeper than `depth`. -/
def value? : (depth : Nat) → List Char → Option (Json × List Char)
  | 0, _ => none
  | depth + 1, text =>
    match text.dropWhile isSpace with
    | 'n' :: 'u' :: 'l' :: 'l' :: rest => some (null, rest)
    | 't' :: 'r' :: 'u' :: 'e' :: rest => some (bool true, rest)
    | 'f' :: 'a' :: 'l' :: 's' :: 'e' :: rest => some (bool false, rest)
    | '"' :: rest => do
      let (text, rest) ← string? rest
      return (str (String.ofList text), rest)
    | '[' :: rest => do
      let (items, rest) ← enclosed? (value? depth) ']' rest
      return (arr items, rest)
    | '\x7b' :: rest => do
      let (members, rest) ← enclosed? (readMember? (value? depth)) '\x7d' rest
      return (obj members, rest)
    | rest => number? rest

/-- Reads a document. -/
def read? (text : String) : Option Json := do
  let (value, rest) ← value? text.length text.toList
  if rest.all isSpace then return value else none

/-! ## Strings -/

/-- The digits that a control character is written with are read as this character. -/
theorem charOfDigits?_hexDigit {c : Char} (control : c.toNat < 0x20) :
    charOfDigits? '0' '0' (hexDigit (c.toNat / 16)) (hexDigit (c.toNat % 16)) = some c := by
  have all : ∀ number < 0x20,
      charOfDigits? '0' '0' (hexDigit (number / 16)) (hexDigit (number % 16)) =
        some (Char.ofNat number) := by decide +kernel
  rw [all c.toNat control, Char.ofNat_toNat]

/-- A character of a string is written behind a backslash, as four digits, or as it is. -/
theorem escape_cases (c : Char) :
    (∃ letter, escape c = ['\\', letter] ∧ escaped? letter = some c) ∨
    (c.toNat < 0x20 ∧ escape c =
      ['\\', 'u', '0', '0', hexDigit (c.toNat / 16), hexDigit (c.toNat % 16)]) ∨
    (c ≠ '"' ∧ c ≠ '\\' ∧ ¬c.toNat < 0x20 ∧ escape c = [c]) := by
  by_cases short : c ∈ ['"', '\\', '\x08', '\x0c', '\n', '\r', '\t']
  · refine Or.inl ?_
    simp only [List.mem_cons, List.not_mem_nil, or_false] at short
    rcases short with rfl | rfl | rfl | rfl | rfl | rfl | rfl <;> exact ⟨_, rfl, rfl⟩
  · refine Or.inr ?_
    simp only [List.mem_cons, List.not_mem_nil, or_false, not_or] at short
    obtain ⟨noQuote, noBackslash, noBackspace, noFeed, noLine, noReturn, noTab⟩ := short
    unfold escape
    rw [if_neg noQuote, if_neg noBackslash, if_neg noBackspace, if_neg noFeed, if_neg noLine,
      if_neg noReturn, if_neg noTab]
    by_cases control : c.toNat < 0x20
    · exact Or.inl ⟨control, if_pos control⟩
    · exact Or.inr ⟨noQuote, noBackslash, control, if_neg control⟩

/-- A character behind a backslash is read as the one that it stands for. -/
theorem string?_escaped {c letter : Char} {rest : List Char} (known : escaped? letter = some c) :
    string? ('\\' :: letter :: rest) = (string? rest).map fun (text, after) => (c :: text, after) := by
  have noDigits : letter ≠ 'u' := by
    rintro rfl
    cases known
  rw [string?]
  · rw [known]
    cases string? rest <;> rfl
  · intro first second third fourth _ same
    exact absurd same noDigits

/-- A character that may stand in a string is read as it is. -/
theorem string?_plain {c : Char} {rest : List Char} (noQuote : c ≠ '"') (noBackslash : c ≠ '\\')
    (noControl : ¬c.toNat < 0x20) :
    string? (c :: rest) = (string? rest).map fun (text, after) => (c :: text, after) := by
  rw [string?]
  · rw [if_neg (not_or.mpr ⟨noBackslash, noControl⟩)]
    cases string? rest <;> rfl
  · exact noQuote
  · intro _ _ _ _ _ same
    exact absurd same noBackslash
  · intro _ _ same
    exact absurd same noBackslash

/-- A character is read from the way that it is written inside a string. -/
theorem string?_escape (c : Char) (rest : List Char) :
    string? (escape c ++ rest) = (string? rest).map fun (text, after) => (c :: text, after) := by
  rcases escape_cases c with ⟨letter, written, known⟩ | ⟨control, written⟩ |
    ⟨noQuote, noBackslash, noControl, written⟩
  · rw [written]
    exact string?_escaped known
  · rw [written]
    simp only [List.cons_append, List.nil_append]
    rw [string?, charOfDigits?_hexDigit control]
    cases string? rest <;> rfl
  · rw [written]
    exact string?_plain noQuote noBackslash noControl

/-- A string is read back from the way that it is written. -/
theorem string?_flatMap_escape (text rest : List Char) :
    string? (text.flatMap escape ++ '"' :: rest) = some (text, rest) := by
  induction text with
  | nil => rfl
  | cons c text inductionHypothesis =>
    rw [List.flatMap_cons, List.append_assoc, string?_escape, inductionHypothesis]
    rfl

/-! ## Lists -/

/-- White space is passed over, up to what is none. -/
theorem dropWhile_isSpace {lead : List Char} (blank : ∀ c ∈ lead, isSpace c = true) {c : Char}
    (noSpace : isSpace c = false) (rest : List Char) :
    (lead ++ c :: rest).dropWhile isSpace = c :: rest :=
  dropWhile_stretch blank (by simpa using noSpace)

/-- White space is no digit. -/
theorem isDigit_of_isSpace {c : Char} (space : isSpace c = true) : c.isDigit = false := by
  simp only [isSpace, Bool.or_eq_true, decide_eq_true_eq] at space
  rcases space with ((rfl | rfl) | rfl) | rfl <;> rfl

/-- A digit is no white space. -/
theorem isSpace_of_isDigit {c : Char} (digit : c.isDigit = true) : isSpace c = false :=
  Bool.eq_false_iff.mpr fun space => by simp [isDigit_of_isSpace space] at digit

/-- Whether an item is read from what is written for it, whatever white space stands before it, and
whatever stands behind it except a further digit. -/
def Reads {α : Type} (item? : List Char → Option (α × List Char)) (written : List Char)
    (item : α) : Prop :=
  ∀ lead rest, (∀ c ∈ lead, isSpace c = true) → (∀ c ∈ rest.head?, c.isDigit = false) →
    item? (lead ++ (written ++ rest)) = some (item, rest)

/-- A character that can end items: it is neither part of one nor does it stand between two. -/
structure IsClosing (closing : Char) : Prop where
  noSpace : isSpace closing = false
  noDigit : closing.isDigit = false
  noComma : closing ≠ ','

/-- A bracket can end items. -/
theorem isClosing_bracket : IsClosing ']' := ⟨rfl, rfl, by decide⟩

/-- A brace can end items. -/
theorem isClosing_brace : IsClosing '\x7d' := ⟨rfl, rfl, by decide⟩

section Items

variable {α : Type} {item? : List Char → Option (α × List Char)} {closing : Char}
  {write : α → List Char} {lead space last rest : List Char}

/-- Neither white space nor a bracket behind it continues a number. -/
theorem isDigit_head_closing (closes : IsClosing closing) (blank : ∀ c ∈ last, isSpace c = true) :
    ∀ c ∈ (last ++ closing :: rest).head?, c.isDigit = false := by
  cases last with
  | nil => simpa using closes.noDigit
  | cons first others =>
    rintro c ⟨⟩
    exact isDigit_of_isSpace (blank first List.mem_cons_self)

/-- The items end at the closing bracket. -/
theorem items?_last {text : List Char} {item : α} {count : Nat}
    (read : item? text = some (item, last ++ closing :: rest)) (closes : IsClosing closing)
    (blank : ∀ c ∈ last, isSpace c = true) :
    items? item? closing (count + 1) text = some ([item], rest) := by
  rw [items?, read]
  simp only [bind, Option.bind, dropWhile_isSpace blank closes.noSpace, if_true]
  rfl

/-- Behind a comma there is a further item. -/
theorem items?_next {text : List Char} {item : α} {count : Nat}
    (read : item? text = some (item, ',' :: rest)) (closes : IsClosing closing) :
    items? item? closing (count + 1) text =
      (items? item? closing count rest).map fun (items, after) => (item :: items, after) := by
  have here : (',' :: rest).dropWhile isSpace = ',' :: rest := rfl
  rw [items?, read]
  simp only [bind, Option.bind, here, if_neg closes.noComma.symm, if_true]
  cases items? item? closing count rest <;> rfl

/-- Items are read up to the closing bracket. The induction is on the items. -/
theorem items?_intercalate (closes : IsClosing closing) (separated : ∀ c ∈ space, isSpace c = true)
    (ended : ∀ c ∈ last, isSpace c = true) {items : List α}
    (reads : ∀ item ∈ items, Reads item? (write item) item) (nonempty : items ≠ []) {count : Nat}
    (enough : ((',' :: space).intercalate (items.map write)).length < count)
    (blank : ∀ c ∈ lead, isSpace c = true) :
    items? item? closing count
        (lead ++ ((',' :: space).intercalate (items.map write) ++ (last ++ closing :: rest))) =
      some (items, rest) := by
  induction items generalizing count lead with
  | nil => exact absurd rfl nonempty
  | cons item items inductionHypothesis =>
    obtain ⟨readsItem, readsItems⟩ := List.forall_mem_cons.mp reads
    obtain ⟨count, rfl⟩ := Nat.exists_eq_add_one_of_ne_zero (Nat.ne_zero_of_lt enough)
    cases items with
    | nil =>
      rw [List.map_singleton, List.intercalate_singleton]
      exact items?_last (readsItem _ _ blank (isDigit_head_closing closes ended)) closes ended
    | cons next items =>
      rw [List.map_cons, List.map_cons, List.intercalate_cons_cons, ← List.map_cons] at enough ⊢
      simp only [List.length_append, List.length_cons] at enough
      simp only [List.append_assoc, List.cons_append]
      rw [items?_next (readsItem _ _ blank (by simp)) closes,
        inductionHypothesis readsItems (List.cons_ne_nil _ _) (by omega) separated]
      rfl

/-- What stands between the brackets around items. -/
def body (indent : Nat) (items : List (List Char)) : List Char :=
  if items.isEmpty then []
  else (lineBreak (indent + 2)).toList ++
    ((',' :: (lineBreak (indent + 2)).toList).intercalate items ++ (lineBreak indent).toList)

/-- The characters of items between brackets. -/
theorem toList_enclose (opening closing : String) (indent : Nat) (items : List String) :
    (enclose opening closing indent items).toList =
      opening.toList ++ (body indent (items.map String.toList) ++ closing.toList) := by
  unfold enclose body
  cases items with
  | nil => simp
  | cons item items => simp [String.toList_intercalate]

/-- A line break and its indentation are white space. -/
theorem isSpace_lineBreak (indent : Nat) : ∀ c ∈ (lineBreak indent).toList, isSpace c = true := by
  simp only [lineBreak, String.toList_ofList, List.forall_mem_cons]
  refine ⟨rfl, fun c member => ?_⟩
  rw [List.eq_of_mem_replicate member]
  rfl

/-- Items between brackets are read, each on a line of its own, and none if there are none. -/
theorem enclosed?_body (closes : IsClosing closing) {items : List α}
    (reads : ∀ item ∈ items, Reads item? (write item) item)
    (begins : ∀ item ∈ items, ∃ c others, write item = c :: others ∧ isSpace c = false ∧ c ≠ closing)
    (indent : Nat) (rest : List Char) :
    enclosed? item? closing (body indent (items.map write) ++ closing :: rest) =
      some (items, rest) := by
  unfold enclosed?
  cases items with
  | nil =>
    have here : (body indent (([] : List α).map write) ++ closing :: rest).dropWhile isSpace =
      closing :: rest := List.dropWhile_cons_of_neg (by simp [closes.noSpace])
    rw [here]
    exact if_pos rfl
  | cons item items =>
    obtain ⟨c, others, written, visible, noClosing⟩ := begins item List.mem_cons_self
    have laid : body indent ((item :: items).map write) ++ closing :: rest =
        (lineBreak (indent + 2)).toList ++ ((',' :: (lineBreak (indent + 2)).toList).intercalate
          ((item :: items).map write) ++ ((lineBreak indent).toList ++ closing :: rest)) := by
      simp [body]
    have starts : ∃ more, (',' :: (lineBreak (indent + 2)).toList).intercalate
        ((item :: items).map write) ++ ((lineBreak indent).toList ++ closing :: rest) = c :: more := by
      cases items <;> simp [written]
    obtain ⟨more, start⟩ := starts
    have here : (body indent ((item :: items).map write) ++ closing :: rest).dropWhile isSpace =
        c :: more := by
      rw [laid, start, dropWhile_isSpace (isSpace_lineBreak _) visible]
    rw [here]
    dsimp only
    rw [if_neg noClosing, laid]
    refine items?_intercalate closes (isSpace_lineBreak _) (isSpace_lineBreak _) reads
      (List.cons_ne_nil _ _) ?_ (isSpace_lineBreak _)
    simp only [List.length_append, List.length_cons]
    omega

end Items

/-- An item is no longer than all of them. -/
theorem length_le_intercalate (separator : List Char) {items : List (List Char)} {item : List Char}
    (member : item ∈ items) : item.length ≤ (separator.intercalate items).length := by
  induction items with
  | nil => cases member
  | cons first items inductionHypothesis =>
    cases items with
    | nil => rw [List.mem_singleton.mp member, List.intercalate_singleton]
    | cons next items =>
      rw [List.intercalate_cons_cons, List.length_append, List.length_append]
      rcases List.mem_cons.mp member with rfl | later
      · omega
      · have bound := inductionHypothesis later
        omega

/-- An item is shorter than all of them with the brackets around them. -/
theorem length_lt_enclose (opening : String) (bracket : 0 < opening.length) (closing : String)
    (indent : Nat) {items : List String} {item : String} (member : item ∈ items) :
    item.length < (enclose opening closing indent items).length := by
  have bound := length_le_intercalate (',' :: (lineBreak (indent + 2)).toList)
    (List.mem_map_of_mem (f := String.toList) member)
  have some : (items.map String.toList).isEmpty = false := by
    cases items with
    | nil => cases member
    | cons => rfl
  rw [← String.length_toList, ← String.length_toList, toList_enclose, body, some,
    if_neg Bool.false_ne_true]
  simp only [List.length_append, String.length_toList] at bound ⊢
  omega

/-! ## Values -/

/-- A list is written as its items between brackets. -/
theorem render_arr (indent : Nat) (items : List Json) :
    (arr items).render indent = enclose "[" "]" indent (items.map (·.render (indent + 2))) := by
  rw [render]
  exact congrArg _ List.attach_map_val

/-- What is written for a member of an object. -/
def renderMember (indent : Nat) (member : String × Json) : String :=
  quote member.1 ++ ": " ++ member.2.render indent

/-- An object is written as its members between braces. -/
theorem render_obj (indent : Nat) (members : List (String × Json)) :
    (obj members).render indent =
      enclose "\x7b" "\x7d" indent (members.map (renderMember (indent + 2))) := by
  rw [render]
  exact congrArg _ (List.attach_map_val (f := renderMember (indent + 2)))

/-- The characters of a string between its quotes. -/
theorem toList_quote (text : String) :
    (quote text).toList = '"' :: (text.toList.flatMap escape ++ ['"']) := by
  rw [quote, String.toList_ofList, List.cons_append]

/-- A natural number is written as digits, of which there is at least one. -/
theorem exists_digits (number : Nat) :
    ∃ first others, Nat.toDigits 10 number = first :: others ∧ first.isDigit = true := by
  cases written : Nat.toDigits 10 number with
  | nil => exact absurd written Nat.toDigits_ne_nil
  | cons first others =>
    refine ⟨first, others, rfl, ?_⟩
    exact Nat.isDigit_of_mem_toDigits (by decide) (by decide) (written ▸ List.mem_cons_self)

/-- What is written for a value begins neither with white space nor with a closing bracket. -/
theorem exists_head_render (value : Json) (indent : Nat) :
    ∃ c others, (value.render indent).toList = c :: others ∧ isSpace c = false ∧ c ≠ ']' ∧
      c ≠ '\x7d' := by
  cases value with
  | null => exact ⟨'n', _, by rw [render]; rfl, by decide⟩
  | bool value =>
    cases value with
    | false => exact ⟨'f', _, by rw [render]; rfl, by decide⟩
    | true => exact ⟨'t', _, by rw [render]; rfl, by decide⟩
  | num value =>
    obtain ⟨first, others, written, digit⟩ := exists_digits value
    refine ⟨first, others, ?_, ?_⟩
    · rw [render, Nat.toString_eq_ofList_toDigits, String.toList_ofList, written]
    · refine ⟨isSpace_of_isDigit digit, ?_, ?_⟩
      · rintro rfl
        cases digit
      · rintro rfl
        cases digit
  | str value => exact ⟨'"', _, by rw [render, toList_quote], by decide⟩
  | arr items => exact ⟨'[', _, by rw [render_arr, toList_enclose]; rfl, by decide⟩
  | obj members => exact ⟨'\x7b', _, by rw [render_obj, toList_enclose]; rfl, by decide⟩

/-- A member is read if its value is. -/
theorem reads_readMember? {value? : List Char → Option (Json × List Char)} (name : String)
    {value : Json} {written : List Char} (reads : Reads value? written value) :
    Reads (readMember? value?) ((quote name).toList ++ ": ".toList ++ written) (name, value) := by
  intro lead rest blank noDigit
  have laid : (quote name).toList ++ ": ".toList ++ written ++ rest =
      '"' :: (name.toList.flatMap escape ++ '"' :: ':' :: ([' '] ++ (written ++ rest))) := by
    simp [toList_quote]
  have here : (lead ++ ((quote name).toList ++ ": ".toList ++ written ++ rest)).dropWhile isSpace =
      '"' :: (name.toList.flatMap escape ++ '"' :: ':' :: ([' '] ++ (written ++ rest))) := by
    rw [laid, dropWhile_isSpace blank rfl]
  have colon : (':' :: ([' '] ++ (written ++ rest))).dropWhile isSpace =
      ':' :: ([' '] ++ (written ++ rest)) := rfl
  rw [readMember?, here]
  simp only [string?_flatMap_escape, bind, Option.bind, colon,
    reads [' '] rest (by simp [isSpace]) noDigit, String.ofList_toList]
  rfl

/-- White space before a value is passed over. -/
theorem value?_blank (depth : Nat) {lead : List Char} (blank : ∀ c ∈ lead, isSpace c = true) {c : Char}
    (noSpace : isSpace c = false) (rest : List Char) :
    value? (depth + 1) (lead ++ c :: rest) = value? (depth + 1) (c :: rest) := by
  rw [value?, value?, dropWhile_isSpace blank noSpace,
    List.dropWhile_cons_of_neg (by simp [noSpace])]

/-- A natural number is read from its digits. -/
theorem value?_digits (depth number : Nat) {rest : List Char}
    (noDigit : ∀ c ∈ rest.head?, c.isDigit = false) :
    value? (depth + 1) ((toString number).toList ++ rest) = some (num number, rest) := by
  rw [Nat.toString_eq_ofList_toDigits, String.toList_ofList]
  obtain ⟨first, others, written, digit⟩ := exists_digits number
  have digits : ∀ c ∈ Nat.toDigits 10 number, c.isDigit = true := fun c member =>
    Nat.isDigit_of_mem_toDigits (by decide) (by decide) member
  have here : (Nat.toDigits 10 number ++ rest).dropWhile isSpace = Nat.toDigits 10 number ++ rest := by
    rw [written, List.cons_append, List.dropWhile_cons_of_neg (by simp [isSpace_of_isDigit digit])]
  have begins : ∀ {c others'}, c.isDigit = false → Nat.toDigits 10 number ++ rest ≠ c :: others' := by
    rintro c others' noDigit same
    rw [written] at same
    cases same
    rw [digit] at noDigit
    cases noDigit
  rw [value?, here]
  split <;> try exact absurd ‹_› (begins rfl)
  rw [number?, takeWhile_stretch digits noDigit, dropWhile_stretch digits noDigit,
    Nat.ofDigitChars_ten_toDigits, if_neg]
  simp [written]

/-- A string is read from what is written for it. -/
theorem value?_quote (depth : Nat) (text : String) (rest : List Char) :
    value? (depth + 1) ((quote text).toList ++ rest) = some (str text, rest) := by
  have laid : (quote text).toList ++ rest = '"' :: (text.toList.flatMap escape ++ '"' :: rest) := by
    simp [toList_quote]
  have read : value? (depth + 1) ('"' :: (text.toList.flatMap escape ++ '"' :: rest)) =
      (string? (text.toList.flatMap escape ++ '"' :: rest)).bind fun (text, rest) =>
        some (str (String.ofList text), rest) := rfl
  rw [laid, read, string?_flatMap_escape, Option.bind_some]
  exact congrArg (fun text => some (str text, rest)) String.ofList_toList

/-- An array is read if its items are. -/
theorem value?_arr {depth indent : Nat} {items : List Json} (rest : List Char)
    (reads : ∀ item ∈ items, Reads (value? depth) (item.render (indent + 2)).toList item) :
    value? (depth + 1) (((arr items).render indent).toList ++ rest) = some (arr items, rest) := by
  have laid : ((arr items).render indent).toList ++ rest =
      '[' :: (body indent (items.map fun item => (item.render (indent + 2)).toList) ++ ']' :: rest) := by
    simp [render_arr, toList_enclose, Function.comp_def]
  have read : ∀ text, value? (depth + 1) ('[' :: text) =
      (enclosed? (value? depth) ']' text).bind fun (items, rest) => some (arr items, rest) :=
    fun _ => rfl
  have begins : ∀ item ∈ items, ∃ c others, (item.render (indent + 2)).toList = c :: others ∧
      isSpace c = false ∧ c ≠ ']' := fun item _ => by
    obtain ⟨c, others, written, visible, noClosing, -⟩ := exists_head_render item (indent + 2)
    exact ⟨c, others, written, visible, noClosing⟩
  rw [laid, read, enclosed?_body isClosing_bracket reads begins, Option.bind_some]

/-- An object is read if the values of its members are. -/
theorem value?_obj {depth indent : Nat} {members : List (String × Json)} (rest : List Char)
    (reads : ∀ member ∈ members,
      Reads (value? depth) (member.2.render (indent + 2)).toList member.2) :
    value? (depth + 1) (((obj members).render indent).toList ++ rest) = some (obj members, rest) := by
  have laid : ((obj members).render indent).toList ++ rest = '\x7b' ::
      (body indent (members.map fun member => (renderMember (indent + 2) member).toList) ++
        '\x7d' :: rest) := by
    simp [render_obj, toList_enclose, Function.comp_def]
  have read : ∀ text, value? (depth + 1) ('\x7b' :: text) =
      (enclosed? (readMember? (value? depth)) '\x7d' text).bind fun (members, rest) =>
        some (obj members, rest) := fun _ => rfl
  have readsMembers : ∀ member ∈ members,
      Reads (readMember? (value? depth)) (renderMember (indent + 2) member).toList member :=
    fun member present => by
      rw [renderMember, String.toList_append, String.toList_append]
      exact reads_readMember? member.1 (reads member present)
  have begins : ∀ member ∈ members, ∃ c others,
      (renderMember (indent + 2) member).toList = c :: others ∧ isSpace c = false ∧ c ≠ '\x7d' :=
    fun member _ => ⟨'"', _, by
      rw [renderMember, String.toList_append, String.toList_append, toList_quote]; rfl, by decide⟩
  rw [laid, read, enclosed?_body isClosing_brace readsMembers begins, Option.bind_some]

/-- A value is read from what is written for it. The induction is on the depth, and its bound, the
length of what is written, shrinks with every pair of brackets. -/
theorem reads_render {depth : Nat} {value : Json} {indent : Nat}
    (enough : (value.render indent).toList.length ≤ depth) :
    Reads (value? depth) (value.render indent).toList value := by
  induction depth generalizing value indent with
  | zero =>
    obtain ⟨c, others, written, -⟩ := exists_head_render value indent
    simp [written] at enough
  | succ depth inductionHypothesis =>
    intro lead rest blank noDigit
    obtain ⟨c, others, written, visible, -⟩ := exists_head_render value indent
    have passed : value? (depth + 1) (lead ++ ((value.render indent).toList ++ rest)) =
        value? (depth + 1) ((value.render indent).toList ++ rest) := by
      rw [written, List.cons_append, value?_blank depth blank visible]
    rw [passed]
    cases value with
    | null =>
      rw [render]
      rfl
    | bool value =>
      rw [render]
      cases value <;> rfl
    | num value =>
      rw [render]
      exact value?_digits depth value noDigit
    | str value =>
      rw [render]
      exact value?_quote depth value rest
    | arr items =>
      refine value?_arr rest fun item present => inductionHypothesis ?_
      have shorter := length_lt_enclose "[" (by decide) "]" indent
        (List.mem_map_of_mem (f := (·.render (indent + 2))) present)
      rw [← render_arr] at shorter
      rw [String.length_toList] at enough ⊢
      omega
    | obj members =>
      refine value?_obj rest fun member present => inductionHypothesis ?_
      have shorter := length_lt_enclose "\x7b" (by decide) "\x7d" indent
        (List.mem_map_of_mem (f := renderMember (indent + 2)) present)
      rw [← render_obj, renderMember, String.length_append] at shorter
      rw [String.length_toList] at enough ⊢
      omega

/-- A document is read back from its text, of which the last line may be ended. -/
theorem read?_pretty (value : Json) (last : String) (blank : ∀ c ∈ last.toList, isSpace c = true) :
    read? (value.pretty ++ last) = some value := by
  have length : (value.render 0).toList.length ≤ (value.pretty ++ last).length := by
    rw [String.length_toList, String.length_append]
    exact Nat.le_add_right _ _
  have noDigit : ∀ c ∈ last.toList.head?, c.isDigit = false := fun c first =>
    isDigit_of_isSpace (blank c (List.mem_of_mem_head? first))
  have read : value? (value.pretty ++ last).length (value.pretty ++ last).toList =
      some (value, last.toList) := by
    rw [String.toList_append]
    exact reads_render length [] last.toList (by simp) noDigit
  rw [read?, read]
  exact if_pos (List.all_eq_true.mpr blank)

/-! ## Members -/

/-- The member of an object with a name. -/
def member? (name : String) : Json → Option Json
  | obj members => members.lookup name
  | _ => none

/-- The order of the members does not matter where each has a name of its own. -/
theorem member?_object {members : List (String × Json)} {name : String} {value : Json}
    (distinct : (members.map Prod.fst).Nodup) (present : (name, value) ∈ members) :
    (object members).member? name = some value := by
  have sorted := List.mergeSort_perm members fun left right => left.1 ≤ right.1
  obtain ⟨before, after, split⟩ := List.append_of_mem (sorted.mem_iff.mpr present)
  have alone := (sorted.map Prod.fst).nodup_iff.mpr distinct
  rw [split, List.map_append, List.map_cons, List.nodup_append] at alone
  obtain ⟨-, -, apart⟩ := alone
  rw [object, member?, List.lookup_eq_some_iff]
  refine ⟨before, after, split, fun other earlier => bne_iff_ne.mpr fun same => ?_⟩
  exact apart other.1 (List.mem_map_of_mem earlier) name List.mem_cons_self same.symm

end LinkSieve.Json
