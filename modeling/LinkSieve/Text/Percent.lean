import LinkSieve.Text.Utf8
/-!
# Percent escapes

A URL path holds a byte as itself or as a percent sign with two hexadecimal digits. Encoding escapes
the bytes that would mean something else in a URL, and every byte beyond ASCII. Decoding replaces every
percent sign that two digits follow, and leaves the others.
-/

namespace LinkSieve.Text.Percent

/-- The digit with a given value below sixteen. -/
def digit (value : Nat) : Char :=
  if value < 10 then Char.ofNat ('0'.toNat + value) else Char.ofNat ('A'.toNat + (value - 10))

/-- The value of a hexadecimal digit in either case. -/
def digit? (c : Char) : Option Nat :=
  if '0' ≤ c ∧ c ≤ '9' then some (c.toNat - '0'.toNat)
  else if 'A' ≤ c ∧ c ≤ 'F' then some (c.toNat - 'A'.toNat + 10)
  else if 'a' ≤ c ∧ c ≤ 'f' then some (c.toNat - 'a'.toNat + 10)
  else none

/-- The bytes that are escaped in a path: controls, the space, what delimits parts of a URL or its
surroundings, the percent sign, and all bytes beyond ASCII. -/
def isEscaped (byte : UInt8) : Bool :=
  byte < 0x20 || byte ≥ 0x7F ||
    [' ', '"', '#', '%', '<', '>', '?', '\x60', '\x7b', '\x7d'].contains (Char.ofNat byte.toNat)

/-- A byte in a path. -/
def encodeByte (byte : UInt8) : List Char :=
  if isEscaped byte then ['%', digit (byte.toNat / 16), digit (byte.toNat % 16)]
  else [Char.ofNat byte.toNat]

/-- Bytes as a path. -/
def encode (bytes : List UInt8) : List Char := bytes.flatMap encodeByte

/-- The bytes that a path denotes. -/
def decode : List Char → List UInt8
  | '%' :: high :: low :: rest =>
    match digit? high, digit? low with
    | some high, some low => UInt8.ofNat (16 * high + low) :: decode rest
    | _, _ => '%'.toNat.toUInt8 :: decode (high :: low :: rest)
  | c :: rest => String.utf8EncodeChar c ++ decode rest
  | [] => []

example : encode [0x61, 0x20, 0xC3, 0xA9] = "a%20%C3%A9".toList := by decide
example : decode "%41%4g%".toList = [0x41, 0x25, 0x34, 0x67, 0x25] := by decide

end LinkSieve.Text.Percent
