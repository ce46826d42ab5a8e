/-!
# Reading UTF-8

Bytes are cut into characters and into faults. A fault is a longest sequence of bytes that begins a
character but cannot be continued to one, or else a single byte that begins none; a sequence that only
the end of the input cuts off is told apart. Strict reading stops at the first fault, and lenient
reading puts a replacement character in the place of each.
-/

namespace LinkSieve.Text.Utf8

/-- A piece of a sequence of bytes. -/
inductive Piece where
  | char (c : Char)
  | invalid (length : Nat)
  | incomplete (length : Nat)
  deriving Repr, DecidableEq

/-- Where a sequence of bytes stops being UTF-8: the number of bytes before the fault and, unless the
input ends too early, the length of the fault. -/
structure Fault where
  position : Nat
  length : Option Nat
  deriving Repr, DecidableEq

/-- The wording of a fault. -/
def Fault.message (fault : Fault) : String :=
  match fault.length with
  | some length =>
    "invalid utf-8 sequence of " ++ toString length ++ " bytes from index " ++
      toString fault.position
  | none => "incomplete utf-8 byte sequence from index " ++ toString fault.position

/-- Whether a byte continues a character. -/
def isContinuation (byte : UInt8) : Bool := 0x80 ≤ byte && byte ≤ 0xBF

/-- The number of bytes of a character that begins with a given byte beyond ASCII, if one does. -/
def width? (first : UInt8) : Option Nat :=
  if 0xC2 ≤ first && first ≤ 0xDF then some 2
  else if 0xE0 ≤ first && first ≤ 0xEF then some 3
  else if 0xF0 ≤ first && first ≤ 0xF4 then some 4
  else none

/-- Whether a second byte may follow a first one. Overlong forms, surrogates and code points beyond
the last one are excluded here. -/
def mayFollow (first second : UInt8) : Bool :=
  if first = 0xE0 then 0xA0 ≤ second && second ≤ 0xBF
  else if first = 0xED then 0x80 ≤ second && second ≤ 0x9F
  else if first = 0xF0 then 0x90 ≤ second && second ≤ 0xBF
  else if first = 0xF4 then 0x80 ≤ second && second ≤ 0x8F
  else isContinuation second

/-- The character of some bytes: the payload of the first one, less its marker, and six bits from each
other one. -/
def charOf (marker : Nat) (first : UInt8) (others : List UInt8) : Char :=
  Char.ofNat (others.foldl (fun value byte => value * 0x40 + (byte.toNat - 0x80))
    (first.toNat - marker))

/-- Cuts bytes into characters and faults. -/
def pieces : List UInt8 → List Piece
  | [] => []
  | first :: rest =>
    if first < 0x80 then .char (Char.ofNat first.toNat) :: pieces rest
    else
      match width? first, rest with
      | none, rest => .invalid 1 :: pieces rest
      | some _, [] => [.incomplete 1]
      | some width, second :: rest =>
        if !mayFollow first second then .invalid 1 :: pieces (second :: rest)
        else if width = 2 then .char (charOf 0xC0 first [second]) :: pieces rest
        else
          match rest with
          | [] => [.incomplete 2]
          | third :: rest =>
            if !isContinuation third then .invalid 2 :: pieces (third :: rest)
            else if width = 3 then .char (charOf 0xE0 first [second, third]) :: pieces rest
            else
              match rest with
              | [] => [.incomplete 3]
              | fourth :: rest =>
                if !isContinuation fourth then .invalid 3 :: pieces (fourth :: rest)
                else .char (charOf 0xF0 first [second, third, fourth]) :: pieces rest
termination_by bytes => bytes.length

/-- The characters of some pieces up to the first fault, where `position` bytes stand before them. -/
def strict (position : Nat) : List Piece → Except Fault (List Char)
  | [] => .ok []
  | .char c :: rest => do return c :: (← strict (position + c.utf8Size) rest)
  | .invalid length :: _ => .error ⟨position, some length⟩
  | .incomplete _ :: _ => .error ⟨position, none⟩

/-- Reads bytes that must be UTF-8 throughout. -/
def decode (bytes : List UInt8) : Except Fault (List Char) := strict 0 (pieces bytes)

/-- The character that stands for a piece. -/
def Piece.lenient : Piece → Char
  | char c => c
  | invalid _ | incomplete _ => '\uFFFD'

/-- Reads any bytes, with a replacement character for each fault. -/
def decodeLenient (bytes : List UInt8) : List Char := (pieces bytes).map Piece.lenient

/-- The bytes of a text. -/
def encode (text : List Char) : List UInt8 := text.flatMap String.utf8EncodeChar

example : decode [0x61, 0xC3, 0xA9] = .ok ['a', 'é'] := by cbv
example : decode [0x61, 0xE2, 0x82] = .error ⟨1, none⟩ := by cbv
example : decodeLenient [0xF0, 0x9F, 0x41, 0xC0] = ['\uFFFD', 'A', '\uFFFD'] := by cbv

end LinkSieve.Text.Utf8
