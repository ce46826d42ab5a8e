import LinkSieve.Unicode.Property
/-!
# Widths of texts

The number of columns that a text takes on a terminal. A character takes one column, two if it is wide,
or none if it only changes the one before it. A selector, a modifier or a joiner after an emoji makes
one picture of two columns from several characters.

Ligatures that single scripts form are not considered.
-/

namespace LinkSieve.Terminal

open Unicode

/-- The characters of two columns: those that East Asian typography sets in a full square. -/
def wideSet : CharSet := .ofText
  "1100-115F 17A4 231A-231B 2329-232A 23E9-23EC 23F0 23F3 25FD-25FE 2614-2615 2630-2637 2648-2653
   267F 268A-268F 2693 26A1 26AA-26AB 26BD-26BE 26C4-26C5 26CE 26D4 26EA 26F2-26F3 26F5 26FA 26FD
   2705 270A-270B 2728 274C 274E 2753-2755 2757 2795-2797 27B0 27BF 2B1B-2B1C 2B50 2B55 2E80-2E99
   2E9B-2EF3 2F00-2FD5 2FF0-303E 3041-3096 3099-30FF 3105-312F 3131-318E 3190-31E5 31EF-321E
   3220-3247 3250-A48C A490-A4C6 A960-A97C AC00-D7A3 F900-FAFF FE10-FE19 FE30-FE52 FE54-FE66
   FE68-FE6B FF01-FF60 FFE0-FFE6 16FE0-16FE4 16FF0-16FF1 17000-187F7 18800-18CD5 18CFF-18D08
   1AFF0-1AFF3 1AFF5-1AFFB 1AFFD-1AFFE 1B000-1B122 1B132 1B150-1B152 1B155 1B164-1B167
   1B170-1B2FB 1D300-1D356 1D360-1D376 1F004 1F0CF 1F18E 1F191-1F19A 1F200-1F202 1F210-1F23B
   1F240-1F248 1F250-1F251 1F260-1F265 1F300-1F320 1F32D-1F335 1F337-1F37C 1F37E-1F393 1F3A0-1F3CA
   1F3CF-1F3D3 1F3E0-1F3F0 1F3F4 1F3F8-1F43E 1F440 1F442-1F4FC 1F4FF-1F53D 1F54B-1F54E 1F550-1F567
   1F57A 1F595-1F596 1F5A4 1F5FB-1F64F 1F680-1F6C5 1F6CC 1F6D0-1F6D2 1F6D5-1F6D7 1F6DC-1F6DF
   1F6EB-1F6EC 1F6F4-1F6FC 1F7E0-1F7EB 1F7F0 1F90C-1F93A 1F93C-1F945 1F947-1F9FF 1FA70-1FA7C
   1FA80-1FA89 1FA8F-1FAC6 1FACE-1FADC 1FADF-1FAE9 1FAF0-1FAF8 20000-2FFFD 30000-3FFFD"

/-- The characters of no column: those that attach to the one before them, those that have no shape,
later parts of Hangul syllables, and marks that enclose the digits after them. -/
def invisibleSet : CharSet :=
  (CharSet.unions [graphemeExtend, binaryMembers "di",
    .ofText "605 70F 890-891 8E2 1160-11FF A8FA D7B0-D7C6 D7CB-D7FB"]).diff (.ofText "115F 2D7F")

/-- The characters that are shown as pictures where a selector asks for it. -/
def emojiSet : CharSet := binaryMembers "emoji"

/-- The characters that are shown as pictures unless a selector asks for a text. -/
def pictureSet : CharSet := (binaryMembers "epres").diff (.ofText "1F200-1F2FF")

/-- The characters that a skin tone may follow. -/
def modifierBaseSet : CharSet := binaryMembers "ebase"

/-- The characters that pictures are joined from. -/
def pictographicSet : CharSet := binaryMembers "extpict"

/-- The selector that asks for a text. -/
def textSelector : Char := '\uFE0E'

/-- The selector that asks for a picture. -/
def pictureSelector : Char := '\uFE0F'

/-- The mark that makes one picture of its two neighbours. -/
def joiner : Char := '\u200D'

/-- Whether a character is a skin tone. -/
def isModifier (c : Char) : Bool := 0x1F3FB ≤ c.toNat && c.toNat ≤ 0x1F3FF

/-- The number of columns of a character by itself. Controls take one. -/
def charWidth (c : Char) : Nat :=
  if c.toNat < 0x80 then 1
  else if invisibleSet.contains c then 0
  else if wideSet.contains c then 2
  else if c = '\u17D8' then 3
  else 1

/-- Whether a character attaches to a base before it. -/
def attaches (base c : Char) : Bool :=
  !(c.toNat < 0x80) && (invisibleSet.contains c || (isModifier c && modifierBaseSet.contains base))

/-- A base with the characters that are attached to it. -/
structure Element where
  base : Char
  attached : List Char
  deriving Repr, DecidableEq

/-- Cuts a text into elements. What stands at the beginning of the text is a base in any case. -/
def elements : List Char → List Element
  | [] => []
  | c :: rest =>
    match elements rest with
    | [] => [⟨c, []⟩]
    | next :: others =>
      if attaches c next.base then ⟨c, next.base :: next.attached⟩ :: others
      else ⟨c, []⟩ :: next :: others

namespace Element

/-- The number of columns of an element by itself. -/
def width (element : Element) : Nat :=
  match element.attached with
  | [] => charWidth element.base
  | c :: _ =>
    if c = pictureSelector && emojiSet.contains element.base then 2
    else if c = textSelector && pictureSet.contains element.base then 1
    else if isModifier c then 2
    else charWidth element.base

/-- Whether an element is a picture that others can be joined to. -/
def isPicture (element : Element) : Bool :=
  element.width = 2 && pictographicSet.contains element.base

/-- Whether an element is a picture with a joiner behind it. -/
def joinsNext (element : Element) : Bool :=
  element.isPicture && element.attached.getLast? = some joiner

end Element

/-- The number of columns of some elements, where `joined` tells whether the element before them joins
the next picture. A joined picture takes no columns of its own. -/
def elementsWidth (joined : Bool) : List Element → Nat
  | [] => 0
  | element :: rest =>
    (if joined && element.isPicture then 0 else element.width) +
      elementsWidth element.joinsNext rest

/-- The number of columns of a text. -/
def width (text : List Char) : Nat := elementsWidth false (elements text)

end LinkSieve.Terminal
