import LinkSieve.Toml.Value
import LinkSieve.Text.Cut
/-!
# Scalars of TOML

Readers for keys and for values without parts: strings in their four forms, numbers, truth values and
times. A reader takes the characters from a place on and gives what it read with the characters after
it, or nothing if the document is malformed there.
-/

namespace LinkSieve.Toml

/-- Blanks within a line. -/
def isBlank (c : Char) : Bool := c == ' ' || c == '\t'

/-- Drops blanks. -/
def skipBlanks (rest : List Char) : List Char := rest.dropWhile isBlank

/-- Characters beyond ASCII, which may stand in every text. -/
def isBeyondAscii (c : Char) : Bool := c.toNat ≥ 0x80

/-- Characters of a comment: the tab and everything that is not a control character. -/
def isCommentChar (c : Char) : Bool :=
  c == '\t' || (' ' ≤ c && c ≤ '~') || isBeyondAscii c

/-- Reads a line break. -/
def lineBreak : List Char → Option (List Char)
  | '\n' :: rest | '\r' :: '\n' :: rest => some rest
  | _ => none

/-- Reads what may stand after a statement: blanks, a comment, and a line break or the end. -/
def lineEnd (rest : List Char) : Option (List Char) :=
  let rest := match skipBlanks rest with
    | '#' :: comment => comment.dropWhile isCommentChar
    | other => other
  if rest.isEmpty then some [] else lineBreak rest

/-- Drops blanks, line breaks and comments, where the argument tells whether a comment is open. -/
def skipFiller : Bool → List Char → List Char
  | _, [] => []
  | _, '\n' :: rest => skipFiller false rest
  | _, '\r' :: '\n' :: rest => skipFiller false rest
  | true, c :: rest => if isCommentChar c then skipFiller true rest else c :: rest
  | false, c :: rest =>
    if isBlank c then skipFiller false rest
    else if c = '#' then skipFiller true rest
    else c :: rest

/-- The value of a hexadecimal digit. -/
def hexDigit? (c : Char) : Option Nat :=
  if '0' ≤ c ∧ c ≤ '9' then some (c.toNat - '0'.toNat)
  else if 'a' ≤ c ∧ c ≤ 'f' then some (c.toNat - 'a'.toNat + 10)
  else if 'A' ≤ c ∧ c ≤ 'F' then some (c.toNat - 'A'.toNat + 10)
  else none

/-- The character with the code point that some hexadecimal digits give. -/
def codePoint? (digits : List Char) : Option Char := do
  let point ← digits.foldlM (fun value c => do return 16 * value + (← hexDigit? c)) 0
  if valid : point.isValidChar then some (Char.ofNatAux point valid) else none

/-- What a letter or sign stands for after a backslash. -/
def escaped? : Char → Option Char
  | 'b' => some '\x08'
  | 't' => some '\t'
  | 'n' => some '\n'
  | 'f' => some '\x0c'
  | 'r' => some '\r'
  | '"' => some '"'
  | '\\' => some '\\'
  | _ => none

/-- Puts a character in front of what a reader has read. -/
def prepend (c : Char) : Option (List Char × List Char) → Option (List Char × List Char) :=
  Option.map fun (text, rest) => (c :: text, rest)

/-- Characters that stand for themselves in a string with escapes. -/
def isBasicChar (c : Char) : Bool := c != '"' && c != '\\' && isCommentChar c

/-- Characters of a string without escapes. -/
def isLiteralChar (c : Char) : Bool := c != '\'' && isCommentChar c

/-- Reads a string with escapes on one line, after its opening quote. -/
def basicString : List Char → Option (List Char × List Char)
  | [] => none
  | '\\' :: 'u' :: a :: b :: c :: d :: rest => do
    prepend (← codePoint? [a, b, c, d]) (basicString rest)
  | '\\' :: 'U' :: a :: b :: c :: d :: e :: f :: g :: h :: rest => do
    prepend (← codePoint? [a, b, c, d, e, f, g, h]) (basicString rest)
  | '\\' :: c :: rest => do prepend (← escaped? c) (basicString rest)
  | c :: rest =>
    if c = '"' then some ([], rest)
    else if isBasicChar c then prepend c (basicString rest)
    else none

/-- Reads a string with escapes on several lines, after its opening quotes. The first argument tells
whether the line was broken by a backslash, so that white space is dropped. One or two quotes stand for
themselves, also right before the closing ones. -/
def longBasicString : Bool → List Char → Option (List Char × List Char)
  | _, [] => none
  | broken, '\r' :: '\n' :: rest =>
    if broken then longBasicString true rest else prepend '\n' (longBasicString false rest)
  | _, '"' :: '"' :: '"' :: '"' :: '"' :: rest => some (['"', '"'], rest)
  | _, '"' :: '"' :: '"' :: '"' :: rest => some (['"'], rest)
  | _, '"' :: '"' :: '"' :: rest => some ([], rest)
  | _, '\\' :: 'u' :: a :: b :: c :: d :: rest => do
    prepend (← codePoint? [a, b, c, d]) (longBasicString false rest)
  | _, '\\' :: 'U' :: a :: b :: c :: d :: e :: f :: g :: h :: rest => do
    prepend (← codePoint? [a, b, c, d, e, f, g, h]) (longBasicString false rest)
  | _, '\\' :: c :: rest =>
    if (lineBreak (skipBlanks (c :: rest))).isSome then longBasicString true (c :: rest)
    else do prepend (← escaped? c) (longBasicString false rest)
  | broken, c :: rest =>
    if broken && (isBlank c || c = '\n') then longBasicString true rest
    else if isBasicChar c || c = '"' || c = '\n' then prepend c (longBasicString false rest)
    else none

/-- Reads a string without escapes on one line, after its opening quote. -/
def literalString : List Char → Option (List Char × List Char)
  | [] => none
  | c :: rest =>
    if c = '\'' then some ([], rest)
    else if isLiteralChar c then prepend c (literalString rest)
    else none

/-- Reads a string without escapes on several lines, after its opening quotes. -/
def longLiteralString : List Char → Option (List Char × List Char)
  | [] => none
  | '\r' :: '\n' :: rest => prepend '\n' (longLiteralString rest)
  | '\'' :: '\'' :: '\'' :: '\'' :: '\'' :: rest => some (['\'', '\''], rest)
  | '\'' :: '\'' :: '\'' :: '\'' :: rest => some (['\''], rest)
  | '\'' :: '\'' :: '\'' :: rest => some ([], rest)
  | c :: rest =>
    if isLiteralChar c || c = '\'' || c = '\n' then prepend c (longLiteralString rest) else none

/-- Reads a string. A line break right after the opening quotes of a long string is dropped. -/
def string? : List Char → Option (List Char × List Char)
  | '"' :: '"' :: '"' :: rest => longBasicString false ((lineBreak rest).getD rest)
  | '"' :: rest => basicString rest
  | '\'' :: '\'' :: '\'' :: rest => longLiteralString ((lineBreak rest).getD rest)
  | '\'' :: rest => literalString rest
  | _ => none

/-- Characters of a key without quotes. -/
def isBareKeyChar (c : Char) : Bool := c.isAlphanum || c == '_' || c == '-'

/-- Reads a key without dots. -/
def simpleKey : List Char → Option (String × List Char)
  | '"' :: rest => (basicString rest).map fun (text, rest) => (String.ofList text, rest)
  | '\'' :: rest => (literalString rest).map fun (text, rest) => (String.ofList text, rest)
  | rest =>
    let bare := rest.takeWhile isBareKeyChar
    if bare.isEmpty then none else some (String.ofList bare, rest.dropWhile isBareKeyChar)

/-- Reads digits with single underscores between them. -/
def digits (isDigit : Char → Bool) : List Char → Option (List Char × List Char)
  | '_' :: _ | [] => none
  | c :: rest => if isDigit c then more c rest else none
where
  more (first : Char) : List Char → Option (List Char × List Char)
    | '_' :: c :: rest =>
      if isDigit c then prepend first (more c rest) else none
    | ['_'] => none
    | c :: rest => if isDigit c then prepend first (more c rest) else some ([first], c :: rest)
    | [] => some ([first], [])

/-- The value of digits to a base. -/
def digitsValue (base : Nat) (text : List Char) : Nat :=
  text.foldl (fun value c => base * value + (hexDigit? c).getD 0) 0

/-- Reads a sign. -/
def sign : List Char → Bool × List Char
  | '-' :: rest => (true, rest)
  | '+' :: rest => (false, rest)
  | rest => (false, rest)

/-- Reads the digits of a decimal number. A number with several digits does not begin with zero. -/
def decimal : List Char → Option (List Char × List Char)
  | '0' :: rest => some (['0'], rest)
  | rest => digits Char.isDigit rest

/-- Whether a decimal number rounds to infinity as a 64-bit floating-point number: whether it is at
least the midpoint between the greatest finite number and the next power of two. The digits stand for a
whole number, to be multiplied by ten to the given power. -/
def isTooLarge (digits : List Char) (exponent : Int) : Bool :=
  let digits := digits.dropWhile (· = '0')
  let magnitude := exponent + digits.length
  if digits.isEmpty || magnitude < 300 then false
  else if magnitude > 320 then true
  else
    let value := digitsValue 10 digits
    let bound := (1 <<< 1024) - (1 <<< 970)
    if exponent ≥ 0 then value * Nat.pow 10 exponent.toNat ≥ bound
    else value ≥ bound * Nat.pow 10 (-exponent).toNat

/-- Reads the exponent of a floating-point number. -/
def exponent? : List Char → Option (Int × List Char)
  | letter :: rest =>
    if letter = 'e' ∨ letter = 'E' then do
      let (negative, rest) := sign rest
      let (power, rest) ← digits Char.isDigit rest
      let value := digitsValue 10 power
      return (if negative then -value else value, rest)
    else none
  | [] => none

/-- Reads the fraction and the exponent of a floating-point number, of which one must be there, after
its sign and whole digits. A number beyond the greatest one is refused unless it is negative. -/
def fraction (negative : Bool) (whole : List Char) (rest : List Char) :
    Option (Value × List Char) := do
  let (fractional, rest) ← match rest with
    | '.' :: rest => digits Char.isDigit rest
    | rest => some ([], rest)
  let (power, rest) ← match rest with
    | 'e' :: _ | 'E' :: _ => exponent? rest
    | rest => some (0, rest)
  if !negative && isTooLarge (whole ++ fractional) (power - fractional.length) then none
  return (.float, rest)

/-- The least whole number that is too large for 64 bits with a sign. -/
def integerBound : Nat := UInt64.size / 2

/-- Reads a whole number in another base, after its two-character mark. -/
def based (base : Nat) (rest : List Char) : Option (Value × List Char) := do
  let (text, rest) ← digits (fun c => (hexDigit? c).any (· < base)) rest
  let value := digitsValue base text
  if value < integerBound then return (.integer value, rest) else none

/-- Reads a number. Whole numbers have 64 bits. -/
def number (rest : List Char) : Option (Value × List Char) :=
  match rest with
  | '0' :: 'x' :: rest => based 16 rest
  | '0' :: 'o' :: rest => based 8 rest
  | '0' :: 'b' :: rest => based 2 rest
  | rest => do
    let (negative, rest) := sign rest
    match rest with
    | 'i' :: 'n' :: 'f' :: rest | 'n' :: 'a' :: 'n' :: rest => return (.float, rest)
    | rest =>
      let (whole, rest) ← decimal rest
      match rest with
      | '.' :: _ | 'e' :: _ | 'E' :: _ => fraction negative whole rest
      | rest =>
        let value := digitsValue 10 whole
        if negative then
          if value ≤ integerBound then return (.integer (-value), rest) else none
        else if value < integerBound then return (.integer value, rest)
        else none

/-- Reads a number of two digits within bounds. -/
def twoDigits (least most : Nat) : List Char → Option (Nat × List Char)
  | a :: b :: rest =>
    if a.isDigit && b.isDigit then
      let value := digitsValue 10 [a, b]
      if least ≤ value && value ≤ most then some (value, rest) else none
    else none
  | _ => none

/-- The number of days in a month. -/
def daysInMonth (year month : Nat) : Nat :=
  if month = 2 then
    if year % 4 = 0 ∧ (year % 100 ≠ 0 ∨ year % 400 = 0) then 29 else 28
  else if [4, 6, 9, 11].contains month then 30
  else 31

/-- Reads minutes, seconds and a fraction of a second. -/
def clock (rest : List Char) : Option (List Char) := do
  let (_, rest) ← twoDigits 0 59 rest
  match rest with
  | ':' :: rest =>
    let (_, rest) ← twoDigits 0 60 rest
    match rest with
    | '.' :: c :: rest => if c.isDigit then return rest.dropWhile Char.isDigit else none
    | rest => return rest
  | _ => none

/-- Reads the distance of a time from universal time, if there is one. -/
def zone : List Char → Option (List Char)
  | 'Z' :: rest | 'z' :: rest => some rest
  | c :: rest =>
    if c = '+' ∨ c = '-' then do
      let (_, rest) ← twoDigits 0 23 rest
      match rest with
      | ':' :: rest => do
        let (_, rest) ← twoDigits 0 59 rest
        return rest
      | _ => none
    else some (c :: rest)
  | [] => some []

/-- Reads the time of a day after a date, if there is one. A blank before it belongs to it. -/
def timeOfDay (rest : List Char) : Option (List Char) :=
  match rest with
  | [] => some []
  | mark :: after =>
    if mark = 'T' ∨ mark = 't' ∨ mark = ' ' then
      match twoDigits 0 23 after with
      | some (_, ':' :: after) => do zone (← clock after)
      | _ => some rest
    else some rest

/-- Reads a date after its year and the hyphen after that, with the time of the day. -/
def date (year : Nat) (rest : List Char) : Option (Value × List Char) := do
  let (month, rest) ← twoDigits 1 12 rest
  match rest with
  | '-' :: rest =>
    let (_, rest) ← twoDigits 1 (daysInMonth year month) rest
    return (.datetime, ← timeOfDay rest)
  | _ => none

/-- Reads a number or a time. Four digits with a hyphen after them begin a date, and an hour with a
colon after it begins a time. -/
def numberOrTime (rest : List Char) : Option (Value × List Char) :=
  match rest with
  | a :: b :: c :: d :: '-' :: after =>
    if [a, b, c, d].all Char.isDigit then date (digitsValue 10 [a, b, c, d]) after
    else number rest
  | a :: b :: ':' :: after =>
    if (twoDigits 0 23 [a, b]).isSome then do return (.datetime, ← clock after)
    else number rest
  | rest => number rest

/-- Reads a value without parts. -/
def scalar (rest : List Char) : Option (Value × List Char) :=
  match rest with
  | '"' :: _ | '\'' :: _ => (string? rest).map fun (text, rest) => (.string (String.ofList text), rest)
  | 't' :: 'r' :: 'u' :: 'e' :: rest => some (.boolean true, rest)
  | 'f' :: 'a' :: 'l' :: 's' :: 'e' :: rest => some (.boolean false, rest)
  | rest => numberOrTime rest

end LinkSieve.Toml
