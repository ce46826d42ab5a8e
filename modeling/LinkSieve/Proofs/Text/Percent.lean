import LinkSieve.Text.Percent
import LinkSieve.Proofs.Text.Utf8
/-!
# Percent escapes undone

Decoding undoes encoding, for any bytes and so for the bytes of any text. It can be done part by part
where a text is cut at a character that is in no escape. An escaped text has no characters but the
percent sign, the digits of escapes, and those characters of the text that need no escape. In
particular a slash in it is a slash of the text, and it has neither a question mark nor a number sign.
-/

namespace LinkSieve.Text.Percent

/-- The digit of a value is read as that value. -/
theorem digit?_digit : ∀ value < 16, digit? (digit value) = some value := by
  decide

/-- A byte without an escape is a byte of ASCII, and none of those that mean something else. -/
theorem bounds_of_isEscaped_eq_false {byte : UInt8} (plain : isEscaped byte = false) :
    byte.toNat < 0x7F ∧ Char.ofNat byte.toNat ≠ '%' := by
  simp only [isEscaped, Bool.or_eq_false_iff, decide_eq_false_iff_not] at plain
  obtain ⟨⟨-, small⟩, unlisted⟩ := plain
  constructor
  · have bound : byte < 0x7F := UInt8.not_le.mp small
    exact UInt8.lt_iff_toNat_lt.mp bound
  · intro percent
    rw [percent] at unlisted
    cases unlisted

/-- The character with the value of a byte of ASCII. -/
theorem toNat_charOfNat {byte : UInt8} (ascii : byte.toNat < 0x7F) :
    (Char.ofNat byte.toNat).toNat = byte.toNat := by
  have valid : byte.toNat.isValidChar := Or.inl (by omega)
  rw [Char.ofNat, dif_pos valid]
  rfl

/-- A character that does not begin an escape stands for itself. -/
theorem decode_cons {c : Char} {rest : List Char}
    (plain : ∀ high low others highValue lowValue, c = '%' → rest = high :: low :: others →
      digit? high = some highValue → digit? low ≠ some lowValue) :
    decode (c :: rest) = String.utf8EncodeChar c ++ decode rest := by
  rw [decode.eq_def]
  split
  next high low others same =>
    obtain ⟨rfl, rfl⟩ := List.cons.inj same
    split
    next highValue lowValue highDigit lowDigit =>
      exact absurd lowDigit (plain high low others highValue lowValue rfl rfl highDigit)
    next => rfl
  next same =>
    obtain ⟨rfl, rfl⟩ := List.cons.inj same
    rfl
  next same => cases same

/-- A byte is read back, whatever follows it. -/
theorem decode_encodeByte (byte : UInt8) (rest : List Char) :
    decode (encodeByte byte ++ rest) = byte :: decode rest := by
  unfold encodeByte
  split
  next escaped =>
    have bound : byte.toNat < 256 := byte.toNat_lt
    have high := digit?_digit (byte.toNat / 16) (by omega)
    have low := digit?_digit (byte.toNat % 16) (by omega)
    have value : UInt8.ofNat (16 * (byte.toNat / 16) + byte.toNat % 16) = byte := by
      rw [Nat.div_add_mod, UInt8.ofNat_toNat]
    simp only [List.cons_append, List.nil_append]
    rw [decode, high, low]
    simp only [value]
  next plain =>
    obtain ⟨ascii, noPercent⟩ := bounds_of_isEscaped_eq_false (Bool.eq_false_iff.mpr plain)
    have value := toNat_charOfNat ascii
    rw [List.singleton_append, decode_cons, Utf8.utf8EncodeChar_of_ascii (by omega), value,
      UInt8.ofNat_toNat, List.singleton_append]
    intro _ _ _ _ _ percent
    exact absurd percent noPercent

/-- Encoded bytes are read back. -/
theorem decode_encode (bytes : List UInt8) : decode (encode bytes) = bytes := by
  induction bytes with
  | nil => rfl
  | cons byte rest inductionHypothesis =>
    rw [encode, List.flatMap_cons, decode_encodeByte]
    exact congrArg (byte :: ·) inductionHypothesis

/-- A text can be cut before what is no digit of an escape. The induction follows the reading of the
first part. An escape that goes on behind the cut would have a digit there. -/
theorem decode_append (first : List Char) {second : List Char}
    (noDigit : ∀ c ∈ second.head?, digit? c = none) :
    decode (first ++ second) = decode first ++ decode second := by
  have noValue (c : Char) (value : Nat) (others : List Char) (same : second = c :: others) :
      digit? c ≠ some value := by
    rw [noDigit c (by rw [same]; rfl)]
    exact nofun
  fun_induction decode first
  case case1 high low rest highValue lowValue lowDigit highDigit inductionHypothesis =>
    rw [List.cons_append, List.cons_append, List.cons_append, decode, highDigit, lowDigit]
    exact congrArg (_ :: ·) inductionHypothesis
  case case2 high low rest noEscape inductionHypothesis =>
    rw [List.cons_append, decode_cons, inductionHypothesis]
    · rfl
    · intro _ _ others highValue lowValue percent same highDigit lowDigit
      cases same
      exact noEscape highValue lowValue highDigit lowDigit
  case case3 c rest noEscape inductionHypothesis =>
    rw [List.cons_append, decode_cons, inductionHypothesis, List.append_assoc]
    intro high low others highValue lowValue percent same highDigit lowDigit
    rcases rest with _ | ⟨first, _ | ⟨next, rest⟩⟩
    · exact noValue high highValue _ same highDigit
    · exact noValue low lowValue others (List.cons.inj same).2 lowDigit
    · exact noEscape first next rest percent rfl
  case case4 => rfl

/-- A text can be cut at a character of ASCII that is no part of an escape. -/
theorem decode_append_cons {c : Char} (ascii : c.toNat < 0x80) (noPercent : c ≠ '%')
    (noDigit : digit? c = none) (first second : List Char) :
    decode (first ++ c :: second) = decode first ++ UInt8.ofNat c.toNat :: decode second := by
  rw [decode_append first (by simpa using noDigit), decode_cons,
    Utf8.utf8EncodeChar_of_ascii ascii, List.singleton_append]
  intro _ _ _ _ _ percent
  exact absurd percent noPercent

/-- A character of ASCII that is no part of an escape is not lost, whatever is decoded around it. -/
theorem mem_decodeLenient_decode {c : Char} (ascii : c.toNat < 0x80) (noPercent : c ≠ '%')
    (noDigit : digit? c = none) {text : List Char} (member : c ∈ text) :
    c ∈ Utf8.decodeLenient (decode text) := by
  obtain ⟨first, second, rfl⟩ := List.append_of_mem member
  have value : (UInt8.ofNat c.toNat).toNat = c.toNat := Utf8.toNat_ofNat (by omega)
  have small : UInt8.ofNat c.toNat < 0x80 := by
    rw [UInt8.lt_iff_toNat_lt, value]
    exact ascii
  have found := Utf8.mem_decodeLenient_append small (decode first) (decode second)
  rwa [value, Char.ofNat_toNat, ← decode_append_cons ascii noPercent noDigit] at found

/-- A text as part of a path of a URL. -/
def escape (text : List Char) : List Char := encode (Utf8.encode text)

/-- An escaped text denotes its bytes. -/
theorem decode_escape (text : List Char) : decode (escape text) = Utf8.encode text :=
  decode_encode _

/-- Which text is denoted by an encoded one: that of its bytes, which have to be UTF-8. -/
def Denotes (encoded text : List Char) : Prop := Utf8.decode (decode encoded) = .ok text

/-- An escaped text denotes itself. -/
theorem denotes_escape (text : List Char) : Denotes (escape text) text := by
  rw [Denotes, decode_escape, Utf8.decode_encode]

namespace Denotes

variable {encoded text other : List Char}

/-- No more than one text is denoted. -/
theorem unique (denotes : Denotes encoded text) (alike : Denotes encoded other) : text = other :=
  Except.ok.inj (denotes.symm.trans alike)

/-- Lenient reading gives the denoted text as well. -/
theorem decodeLenient_eq (denotes : Denotes encoded text) :
    Utf8.decodeLenient (decode encoded) = text :=
  Utf8.decodeLenient_of_decode denotes

end Denotes

/-- What is denoted can be read part by part, where a character separates the parts that is no part of
an escape. -/
theorem denotes_append_cons_iff {c : Char} (ascii : c.toNat < 0x80) (noPercent : c ≠ '%')
    (noDigit : digit? c = none) {first second text : List Char} :
    Denotes (first ++ c :: second) text ↔
      ∃ before after, Denotes first before ∧ Denotes second after ∧ text = before ++ c :: after := by
  have value : (UInt8.ofNat c.toNat).toNat = c.toNat := Utf8.toNat_ofNat (by omega)
  have small : UInt8.ofNat c.toNat < 0x80 := by
    rw [UInt8.lt_iff_toNat_lt, value]
    exact ascii
  unfold Denotes
  rw [decode_append_cons ascii noPercent noDigit, Utf8.decode_append_eq_ok_iff small, value,
    Char.ofNat_toNat]

/-- Different texts are escaped differently. -/
theorem escape_injective : Function.Injective escape := by
  intro first second same
  have denotes := denotes_escape first
  rw [same] at denotes
  exact denotes.unique (denotes_escape second)

/-- Texts are escaped character by character. -/
theorem escape_append (first second : List Char) :
    escape (first ++ second) = escape first ++ escape second := by
  simp [escape, encode, Utf8.encode]

/-- What stands in the place of a byte is an escape or the character of the byte. -/
theorem mem_encodeByte {c : Char} {byte : UInt8} (member : c ∈ encodeByte byte) :
    c = '%' ∨ (∃ value < 16, c = digit value) ∨
      isEscaped byte = false ∧ c = Char.ofNat byte.toNat := by
  unfold encodeByte at member
  split at member
  next escaped =>
    have bound : byte.toNat < 256 := byte.toNat_lt
    simp only [List.mem_cons, List.not_mem_nil, or_false] at member
    rcases member with percent | high | low
    · exact Or.inl percent
    · exact Or.inr (Or.inl ⟨byte.toNat / 16, by omega, high⟩)
    · exact Or.inr (Or.inl ⟨byte.toNat % 16, by omega, low⟩)
  next plain =>
    exact Or.inr (Or.inr ⟨Bool.eq_false_iff.mpr plain, List.mem_singleton.mp member⟩)

/-- What stands in an escaped text is part of an escape, or it stands in the text and needs no
escape. -/
theorem mem_escape {c : Char} {text : List Char} (member : c ∈ escape text) :
    c = '%' ∨ (∃ value < 16, c = digit value) ∨
      isEscaped (UInt8.ofNat c.toNat) = false ∧ c ∈ text := by
  obtain ⟨byte, inBytes, inPlace⟩ := List.mem_flatMap.mp member
  obtain ⟨letter, inText, ofLetter⟩ := List.mem_flatMap.mp inBytes
  rcases mem_encodeByte inPlace with percent | escape | ⟨plain, same⟩
  · exact Or.inl percent
  · exact Or.inr (Or.inl escape)
  · obtain ⟨ascii, -⟩ := bounds_of_isEscaped_eq_false plain
    have value : c.toNat = byte.toNat := by rw [same, toNat_charOfNat ascii]
    have sameLetter : letter = c := by
      apply Char.toNat_inj.mp
      rw [value, Utf8.toNat_eq_of_mem_utf8EncodeChar ofLetter (by omega)]
    rw [value, UInt8.ofNat_toNat, ← sameLetter]
    exact Or.inr (Or.inr ⟨plain, inText⟩)

/-- A slash in an escaped text is a slash of the text. -/
theorem slash_mem_of_mem_escape {text : List Char} (member : '/' ∈ escape text) : '/' ∈ text := by
  rcases mem_escape member with percent | ⟨value, bound, same⟩ | ⟨-, inText⟩
  · cases percent
  · exact absurd same (by revert value; decide)
  · exact inText

/-- An escaped text has no character that ends a path. -/
theorem not_mem_escape {c : Char} (ends : c = '?' ∨ c = '#') (text : List Char) :
    c ∉ escape text := by
  intro member
  rcases mem_escape member with percent | ⟨value, bound, same⟩ | ⟨plain, -⟩
  · rcases ends with rfl | rfl <;> cases percent
  · rcases ends with rfl | rfl <;> revert value <;> decide
  · rcases ends with rfl | rfl <;> cases plain

end LinkSieve.Text.Percent
