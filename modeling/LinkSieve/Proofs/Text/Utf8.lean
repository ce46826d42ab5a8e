import LinkSieve.Text.Utf8
/-!
# Reading what was written

The bytes of a text are cut into the characters of the text, whatever follows them. So both ways of
reading bytes give a text back, and neither finds a fault in it. The bounds on second bytes are met
because a character is neither a surrogate nor beyond the last code point, and because its form is
the shortest one.

A byte of ASCII belongs to no longer character. So bytes can be read in two parts if the second one
begins with such a byte.
-/

namespace LinkSieve.Text.Utf8

/-- A number below 256 is the value of its byte. -/
theorem toNat_ofNat {value : Nat} (small : value < 256) : (UInt8.ofNat value).toNat = value :=
  UInt8.toNat_ofNat_of_lt' small

/-- The length of a character, by the value of its first byte. -/
theorem width?_eq (first : UInt8) :
    width? first =
      if 0xC2 ≤ first.toNat ∧ first.toNat ≤ 0xDF then some 2
      else if 0xE0 ≤ first.toNat ∧ first.toNat ≤ 0xEF then some 3
      else if 0xF0 ≤ first.toNat ∧ first.toNat ≤ 0xF4 then some 4
      else none := by
  simp [width?, UInt8.le_iff_toNat_le]

/-- Which second bytes may follow, by their values. -/
theorem mayFollow_eq_true_iff (first second : UInt8) :
    mayFollow first second = true ↔
      0x80 ≤ second.toNat ∧ second.toNat ≤ 0xBF ∧
        (first.toNat = 0xE0 → 0xA0 ≤ second.toNat) ∧ (first.toNat = 0xED → second.toNat ≤ 0x9F) ∧
        (first.toNat = 0xF0 → 0x90 ≤ second.toNat) ∧ (first.toNat = 0xF4 → second.toNat ≤ 0x8F) := by
  unfold mayFollow isContinuation
  simp only [← UInt8.toNat_inj, UInt8.le_iff_toNat_le, UInt8.reduceToNat]
  repeat' split
  all_goals
    simp only [Bool.and_eq_true, decide_eq_true_eq]
    omega

/-- Which bytes continue a character, by their values. -/
theorem isContinuation_eq_true_iff (byte : UInt8) :
    isContinuation byte = true ↔ 0x80 ≤ byte.toNat ∧ byte.toNat ≤ 0xBF := by
  simp [isContinuation, UInt8.le_iff_toNat_le]

/-- A byte that begins a longer character is no character itself. -/
theorem not_lt_of_width? {first : UInt8} {width : Nat} (begins : width? first = some width) :
    ¬first < 0x80 := by
  rw [width?_eq] at begins
  intro ascii
  have small : first.toNat < 0x80 := UInt8.lt_iff_toNat_lt.mp ascii
  rw [if_neg (by omega), if_neg (by omega), if_neg (by omega)] at begins
  cases begins

/-- The payloads of the bytes of a character make up its code point. -/
theorem charOf_eq {marker : Nat} {first : UInt8} {others : List UInt8} {c : Char}
    (value : others.foldl (fun value byte => value * 0x40 + (byte.toNat - 0x80))
      (first.toNat - marker) = c.toNat) : charOf marker first others = c := by
  rw [charOf, value, Char.ofNat_toNat]

/-- A byte of ASCII is a character itself. -/
theorem pieces_ascii {byte : UInt8} (ascii : byte < 0x80) (rest : List UInt8) :
    pieces (byte :: rest) = .char (Char.ofNat byte.toNat) :: pieces rest := by
  rw [pieces.eq_def]
  simp only [ascii, if_true]

section Width

variable {c : Char} {first second third fourth : UInt8}

/-- A character of ASCII is a single byte. -/
theorem pieces_one (small : c.toNat ≤ 0x7F) (firstValue : first.toNat = c.toNat)
    (rest : List UInt8) : pieces (first :: rest) = .char c :: pieces rest := by
  have ascii : first < 0x80 := by
    rw [UInt8.lt_iff_toNat_lt, firstValue]
    exact Nat.lt_succ_of_le small
  rw [pieces_ascii ascii, firstValue, Char.ofNat_toNat]

/-- Two bytes are a character if they have its bits. -/
theorem pieces_two (large : 0x7F < c.toNat) (small : c.toNat ≤ 0x7FF)
    (firstValue : first.toNat = c.toNat / 64 % 32 + 192)
    (secondValue : second.toNat = c.toNat % 64 + 128) (rest : List UInt8) :
    pieces (first :: second :: rest) = .char c :: pieces rest := by
  have begins : width? first = some 2 := by
    rw [width?_eq, if_pos (by omega)]
  have follows : mayFollow first second = true := by
    rw [mayFollow_eq_true_iff]
    omega
  have char : charOf 0xC0 first [second] = c := by
    apply charOf_eq
    rw [List.foldl_cons, List.foldl_nil]
    omega
  rw [pieces.eq_def]
  simp [not_lt_of_width? begins, begins, follows, char]

/-- Three bytes are a character if they have its bits. It is no surrogate, so that the bound on the
second byte is met. -/
theorem pieces_three (large : 0x7FF < c.toNat) (small : c.toNat ≤ 0xFFFF)
    (firstValue : first.toNat = c.toNat / 4096 % 16 + 224)
    (secondValue : second.toNat = c.toNat / 64 % 64 + 128)
    (thirdValue : third.toNat = c.toNat % 64 + 128) (rest : List UInt8) :
    pieces (first :: second :: third :: rest) = .char c :: pieces rest := by
  have valid : c.toNat < 0xD800 ∨ 0xDFFF < c.toNat ∧ c.toNat < 0x110000 := c.valid
  have begins : width? first = some 3 := by
    rw [width?_eq, if_neg (by omega), if_pos (by omega)]
  have follows : mayFollow first second = true := by
    rw [mayFollow_eq_true_iff]
    omega
  have continues : isContinuation third = true := by
    rw [isContinuation_eq_true_iff]
    omega
  have char : charOf 0xE0 first [second, third] = c := by
    apply charOf_eq
    rw [List.foldl_cons, List.foldl_cons, List.foldl_nil]
    omega
  rw [pieces.eq_def]
  simp [not_lt_of_width? begins, begins, follows, continues, char]

/-- Four bytes are a character if they have its bits. It is not beyond the last code point, so that
the bound on the second byte is met. -/
theorem pieces_four (large : 0xFFFF < c.toNat)
    (firstValue : first.toNat = c.toNat / 262144 % 8 + 240)
    (secondValue : second.toNat = c.toNat / 4096 % 64 + 128)
    (thirdValue : third.toNat = c.toNat / 64 % 64 + 128)
    (fourthValue : fourth.toNat = c.toNat % 64 + 128) (rest : List UInt8) :
    pieces (first :: second :: third :: fourth :: rest) = .char c :: pieces rest := by
  have valid : c.toNat < 0xD800 ∨ 0xDFFF < c.toNat ∧ c.toNat < 0x110000 := c.valid
  have begins : width? first = some 4 := by
    rw [width?_eq, if_neg (by omega), if_neg (by omega), if_pos (by omega)]
  have follows : mayFollow first second = true := by
    rw [mayFollow_eq_true_iff]
    omega
  have continues : isContinuation third = true := by
    rw [isContinuation_eq_true_iff]
    omega
  have ends : isContinuation fourth = true := by
    rw [isContinuation_eq_true_iff]
    omega
  have char : charOf 0xF0 first [second, third, fourth] = c := by
    apply charOf_eq
    rw [List.foldl_cons, List.foldl_cons, List.foldl_cons, List.foldl_nil]
    omega
  rw [pieces.eq_def]
  simp [not_lt_of_width? begins, begins, follows, continues, ends, char]

end Width

/-- The bytes of a character are cut off as that character, whatever follows them. -/
theorem pieces_utf8EncodeChar (c : Char) (rest : List UInt8) :
    pieces (String.utf8EncodeChar c ++ rest) = .char c :: pieces rest := by
  have code : c.val.toNat = c.toNat := rfl
  unfold String.utf8EncodeChar
  simp only [code]
  split
  next small => exact pieces_one small (toNat_ofNat (by omega)) rest
  next large =>
    have large := Nat.lt_of_not_le large
    split
    next small =>
      exact pieces_two large small (toNat_ofNat (by omega)) (toNat_ofNat (by omega)) rest
    next larger =>
      have larger := Nat.lt_of_not_le larger
      split
      next small =>
        exact pieces_three larger small (toNat_ofNat (by omega)) (toNat_ofNat (by omega))
          (toNat_ofNat (by omega)) rest
      next largest =>
        exact pieces_four (Nat.lt_of_not_le largest) (toNat_ofNat (by omega))
          (toNat_ofNat (by omega)) (toNat_ofNat (by omega)) (toNat_ofNat (by omega)) rest

/-- The bytes of a text are cut into its characters. -/
theorem pieces_encode (text : List Char) : pieces (encode text) = text.map Piece.char := by
  induction text with
  | nil => rw [encode, List.flatMap_nil, pieces, List.map_nil]
  | cons c rest inductionHypothesis =>
    rw [encode, List.flatMap_cons, pieces_utf8EncodeChar]
    exact congrArg (Piece.char c :: ·) inductionHypothesis

/-- Strict reading succeeds where every piece is a character. -/
theorem strict_eq_ok_iff (position : Nat) {parts : List Piece} {text : List Char} :
    strict position parts = .ok text ↔ parts = text.map Piece.char := by
  induction parts generalizing position text with
  | nil => cases text <;> simp [strict]
  | cons part rest inductionHypothesis =>
    cases part with
    | char c =>
      cases text with
      | nil =>
        rw [strict]
        cases strict (position + c.utf8Size) rest <;> exact iff_of_false nofun nofun
      | cons first others =>
        rw [strict, List.map_cons, List.cons.injEq, Piece.char.injEq,
          ← inductionHypothesis (position + c.utf8Size)]
        cases strict (position + c.utf8Size) rest <;> simp [bind, Except.bind, pure, Except.pure]
    | invalid length => cases text <;> simp [strict]
    | incomplete length => cases text <;> simp [strict]

/-- Bytes are read as a text if they are cut into its characters. -/
theorem decode_eq_ok_iff {bytes : List UInt8} {text : List Char} :
    decode bytes = .ok text ↔ pieces bytes = text.map Piece.char :=
  strict_eq_ok_iff 0

/-- Strict reading gives a text back. -/
theorem decode_encode (text : List Char) : decode (encode text) = .ok text :=
  decode_eq_ok_iff.mpr (pieces_encode text)

/-- Lenient reading agrees with strict reading where this succeeds. -/
theorem decodeLenient_of_decode {bytes : List UInt8} {text : List Char}
    (decoded : decode bytes = .ok text) : decodeLenient bytes = text := by
  rw [decodeLenient, decode_eq_ok_iff.mp decoded, List.map_map]
  exact List.map_id text

/-- A character of ASCII is written as the byte with its value. -/
theorem utf8EncodeChar_of_ascii {c : Char} (ascii : c.toNat < 0x80) :
    String.utf8EncodeChar c = [UInt8.ofNat c.toNat] := by
  have code : c.val.toNat = c.toNat := rfl
  rw [String.utf8EncodeChar, code, if_pos (by omega)]

/-- A character beyond ASCII has no byte of ASCII. -/
theorem le_of_mem_utf8EncodeChar {c : Char} (large : 0x7F < c.toNat) :
    ∀ byte ∈ String.utf8EncodeChar c, 0x80 ≤ byte.toNat := by
  have code : c.val.toNat = c.toNat := rfl
  unfold String.utf8EncodeChar
  simp only [code, if_neg (Nat.not_le_of_lt large)]
  repeat' split
  all_goals
    simp only [List.forall_mem_cons, UInt8.toNat_ofNat', List.not_mem_nil, false_imp_iff,
      implies_true, and_true]
    omega

/-- A byte of ASCII stands for the character with its value. -/
theorem toNat_eq_of_mem_utf8EncodeChar {c : Char} {byte : UInt8}
    (member : byte ∈ String.utf8EncodeChar c) (ascii : byte.toNat < 0x80) :
    c.toNat = byte.toNat := by
  have small : c.toNat < 0x80 := by
    apply Nat.lt_of_not_le
    intro large
    have beyond : 0x80 ≤ byte.toNat := le_of_mem_utf8EncodeChar large byte member
    omega
  rw [utf8EncodeChar_of_ascii small, List.mem_singleton] at member
  rw [member, toNat_ofNat (by omega)]

section Cut

/-- A piece as it is cut if more bytes follow that do not belong to it. -/
def Piece.cutOff : Piece → Piece
  | .incomplete length => .invalid length
  | piece => piece

/-- Pieces are cut off as characters exactly if they are those characters. -/
theorem map_cutOff_eq_iff {parts : List Piece} {text : List Char} :
    parts.map Piece.cutOff = text.map Piece.char ↔ parts = text.map Piece.char := by
  have single (part : Piece) (c : Char) : part.cutOff = .char c ↔ part = .char c := by
    cases part with
    | char other => rfl
    | invalid length => exact iff_of_false nofun nofun
    | incomplete length => exact iff_of_false nofun nofun
  induction parts generalizing text with
  | nil => rfl
  | cons part rest inductionHypothesis =>
    cases text with
    | nil => exact iff_of_false nofun nofun
    | cons c others =>
      simp only [List.map_cons, List.cons.injEq, single, inductionHypothesis]

variable {byte : UInt8}

/-- A byte of ASCII continues no character. -/
theorem isContinuation_eq_false (ascii : byte < 0x80) : isContinuation byte = false := by
  have small : byte.toNat < 0x80 := UInt8.lt_iff_toNat_lt.mp ascii
  rw [Bool.eq_false_iff, Ne, isContinuation_eq_true_iff]
  omega

/-- A byte of ASCII is no second byte either. -/
theorem mayFollow_eq_false (ascii : byte < 0x80) (first : UInt8) :
    mayFollow first byte = false := by
  have small : byte.toNat < 0x80 := UInt8.lt_iff_toNat_lt.mp ascii
  rw [Bool.eq_false_iff, Ne, mayFollow_eq_true_iff]
  omega

/-- Bytes can be cut into pieces part by part, where the second part begins with a byte of ASCII. This
byte ends whatever the first part leaves incomplete. The induction follows the cutting of the first
part, one case for each way in which a piece ends. -/
theorem pieces_append (ascii : byte < 0x80) (first rest : List UInt8) :
    pieces (first ++ byte :: rest) =
      (pieces first).map Piece.cutOff ++ pieces (byte :: rest) := by
  have noFollow := mayFollow_eq_false ascii
  have noContinuation := isContinuation_eq_false ascii
  fun_induction pieces first
  case case1 => rfl
  all_goals
    simp only [List.cons_append, List.nil_append, List.map_cons, List.map_nil, Piece.cutOff] at *
    rw [pieces.eq_def]
    simp only [*]
    simp

/-- Bytes can be read part by part, where a byte of ASCII separates the parts. -/
theorem decode_append_eq_ok_iff (ascii : byte < 0x80) {first rest : List UInt8}
    {text : List Char} :
    decode (first ++ byte :: rest) = .ok text ↔
      ∃ before after, decode first = .ok before ∧ decode rest = .ok after ∧
        text = before ++ Char.ofNat byte.toNat :: after := by
  simp only [decode_eq_ok_iff]
  rw [pieces_append ascii, pieces_ascii ascii]
  constructor
  · intro decoded
    obtain ⟨before, others, rfl, beforeParts, othersParts⟩ :=
      List.map_eq_append_iff.mp decoded.symm
    obtain ⟨c, after, rfl, same, afterParts⟩ := List.map_eq_cons_iff.mp othersParts
    rw [← Piece.char.inj same]
    exact ⟨before, after, map_cutOff_eq_iff.mp beforeParts.symm, afterParts.symm, rfl⟩
  · rintro ⟨before, after, beforeParts, afterParts, rfl⟩
    rw [map_cutOff_eq_iff.mpr beforeParts, afterParts, List.map_append, List.map_cons]

/-- A byte of ASCII is read as its character wherever it stands. -/
theorem mem_decodeLenient_append (ascii : byte < 0x80) (first rest : List UInt8) :
    Char.ofNat byte.toNat ∈ decodeLenient (first ++ byte :: rest) := by
  rw [decodeLenient, pieces_append ascii, pieces_ascii ascii, List.map_append, List.map_cons]
  exact List.mem_append_right _ List.mem_cons_self

end Cut

end LinkSieve.Text.Utf8
