import LinkSieve.Link.FileName
import LinkSieve.Proofs.Text.Percent
/-!
# File names stay in their directory

Whatever a link looks like, the name that it is saved under is a single segment of a path, and it
leads neither to the directory itself nor out of it. A slash cannot come in by an escape, since a
name is left as it was if decoding brings one up, and the same holds of dot segments. A name does
not vanish either: decoding leaves at least one character, if only a replacement for what is no
text.

A backslash separates paths elsewhere, and decoding must not bring one up either. But a segment that
has a backslash of its own is not decoded and keeps it.
-/

namespace LinkSieve.Link

open LinkSieve.Text

/-- A name that a file of a directory can have: a single segment of a path, and no dot segment. -/
structure IsFileName (name : List Char) : Prop where
  nonempty : name ≠ []
  noSlash : '/' ∉ name
  noDot : name ≠ ['.']
  noDots : name ≠ ['.', '.']

instance (name : List Char) : Decidable (IsFileName name) :=
  decidable_of_iff (name ≠ [] ∧ '/' ∉ name ∧ name ≠ ['.'] ∧ name ≠ ['.', '.'])
    ⟨fun ⟨nonempty, noSlash, noDot, noDots⟩ => ⟨nonempty, noSlash, noDot, noDots⟩,
      fun ⟨nonempty, noSlash, noDot, noDots⟩ => ⟨nonempty, noSlash, noDot, noDots⟩⟩

/-- A part of a text that is not empty denotes at least one byte. -/
theorem decode_ne_nil {text : List Char} (nonempty : text ≠ []) : Percent.decode text ≠ [] := by
  have encoded (c : Char) : String.utf8EncodeChar c ≠ [] := by
    intro empty
    have size := String.length_utf8EncodeChar c
    rw [empty] at size
    exact absurd size.symm (Nat.ne_of_gt c.utf8Size_pos)
  unfold Percent.decode
  split
  next => split <;> exact List.cons_ne_nil _ _
  next => exact fun empty => encoded _ (List.append_eq_nil_iff.mp empty).1
  next => exact absurd rfl nonempty

/-- Bytes are cut into at least one piece. -/
theorem pieces_ne_nil {bytes : List UInt8} (nonempty : bytes ≠ []) : Utf8.pieces bytes ≠ [] := by
  cases bytes with
  | nil => exact absurd rfl nonempty
  | cons first rest =>
    unfold Utf8.pieces
    repeat' split
    all_goals exact List.cons_ne_nil _ _

/-- The last segment of a link's path, with its escapes. -/
def lastSegment (link : List Char) : List Char := afterLast '/' (linkPath link)

/-- What the last segment of a link's path denotes. -/
def lastName (link : List Char) : List Char :=
  Utf8.decodeLenient (Percent.decode (lastSegment link))

/-- A decoded segment still means a single name. It is no dot segment, and it has no separator. -/
structure IsSingleName (segment : List Char) : Prop where
  noDots : isDotSegment segment = false
  noSlash : '/' ∉ segment
  noBackslash : '\\' ∉ segment

/-- A link is saved under its last segment, if this is neither empty nor a dot segment. The segment is
decoded if it means a single name then. -/
theorem fileName?_eq_some_iff {link name : List Char} :
    fileName? link = some name ↔
      lastSegment link ≠ [] ∧ isDotSegment (lastSegment link) = false ∧
        (IsSingleName (lastName link) ∧ lastName link = name ∨
          ¬IsSingleName (lastName link) ∧ lastSegment link = name) := by
  have single (segment : List Char) : IsSingleName segment ↔
      ¬(segment.contains '/' || segment.contains '\\' || isDotSegment segment) = true := by
    simp only [Bool.or_eq_true, List.contains_iff_mem, not_or, Bool.not_eq_true]
    exact ⟨fun ⟨noDots, noSlash, noBackslash⟩ => ⟨⟨noSlash, noBackslash⟩, noDots⟩,
      fun ⟨⟨noSlash, noBackslash⟩, noDots⟩ => ⟨noDots, noSlash, noBackslash⟩⟩
  have read : fileName? link =
      if (lastSegment link).isEmpty || isDotSegment (lastSegment link) then none
      else if (lastName link).contains '/' || (lastName link).contains '\\' ||
        isDotSegment (lastName link) then some (lastSegment link)
      else some (lastName link) := rfl
  rw [read]
  split
  next refused =>
    refine iff_of_false nofun ?_
    rintro ⟨nonempty, noDots, -⟩
    simp [nonempty, noDots] at refused
  next accepted =>
    obtain ⟨nonempty, noDots⟩ : lastSegment link ≠ [] ∧ isDotSegment (lastSegment link) = false := by
      simpa using accepted
    split
    next separated =>
      have apart : ¬IsSingleName (lastName link) := fun alone => (single _).mp alone separated
      simp [nonempty, noDots, apart]
    next whole =>
      have alone : IsSingleName (lastName link) := (single _).mpr whole
      simp [nonempty, noDots, alone]

/-- A link is saved under a name that a file of a directory can have. -/
theorem isFileName_of_fileName? {link name : List Char} (named : fileName? link = some name) :
    IsFileName name := by
  have apart {segment : List Char} (noDots : isDotSegment segment = false) :
      segment ≠ ['.'] ∧ segment ≠ ['.', '.'] := by
    simpa [isDotSegment] using noDots
  obtain ⟨nonempty, noDots, ⟨single, rfl⟩ | ⟨-, rfl⟩⟩ := fileName?_eq_some_iff.mp named
  · refine ⟨?_, single.noSlash, (apart single.noDots).1, (apart single.noDots).2⟩
    intro empty
    exact pieces_ne_nil (decode_ne_nil nonempty) (List.map_eq_nil_iff.mp empty)
  · exact ⟨nonempty, not_mem_afterLast '/' (linkPath link), (apart noDots).1, (apart noDots).2⟩

/-- The name of a link is its last segment, decoded or not, and it is the name of a file of a directory.
It has no backslash unless the segment has one as it is written: an escape brings none up, but a
backslash without an escape is kept. -/
theorem fileName?_has_written_backslash {link name : List Char}
    (named : fileName? link = some name) :
    IsFileName name ∧ (name = lastName link ∨ name = lastSegment link) ∧
      ('\\' ∈ name ↔ '\\' ∈ lastSegment link) := by
  refine ⟨isFileName_of_fileName? named, ?_⟩
  have kept : '\\' ∈ lastSegment link → '\\' ∈ lastName link :=
    Percent.mem_decodeLenient_decode (by decide) (by decide) (by decide)
  obtain ⟨-, -, ⟨single, rfl⟩ | ⟨-, rfl⟩⟩ := fileName?_eq_some_iff.mp named
  · constructor
    · exact Or.inl rfl
    · exact iff_of_false single.noBackslash fun written => single.noBackslash (kept written)
  · exact ⟨Or.inr rfl, Iff.rfl⟩

/-- A name with escaped backslashes, which would lead out of its directory, stays escaped. -/
theorem fileName?_has_written_backslash_escaped :
    let link := "http://h/files/..%5C..%5Cetc?dl=1".toList
    let name := "..%5C..%5Cetc".toList
    fileName? link = some name ∧ IsFileName name ∧ (name = lastName link ∨ name = lastSegment link) ∧
      ('\\' ∈ name ↔ '\\' ∈ lastSegment link) := by
  intro link name
  have named : fileName? link = some name := by decide +kernel
  exact ⟨named, fileName?_has_written_backslash named⟩

/-- The same name with the backslashes written as they are keeps them. -/
theorem fileName?_keeps_backslash :
    ¬∀ link name : List Char, fileName? link = some name → IsFileName name ∧ '\\' ∉ name := by
  intro free
  have named : fileName? "http://h/files/..\\..\\etc".toList = some "..\\..\\etc".toList := by
    decide +kernel
  obtain ⟨-, noBackslash⟩ := free _ _ named
  exact noBackslash (by decide)

end LinkSieve.Link
