import Mathlib.Data.List.TakeWhile
import LinkSieve.Files.Local
import LinkSieve.Proofs.Files.Place
import LinkSieve.Proofs.Link.Resolve
/-!
# What a local fetch does

A fetch of a local file fails and leaves the tree alone, or it finds that the file is its own
destination and leaves the tree alone, or it puts the contents of the file at another place. Nothing
else changes in the tree, and the directories stay as they are.
-/

namespace LinkSieve.Files

open LinkSieve.Link LinkSieve.Text LinkSieve.Retrieval

namespace Tree

section Write

variable {tree other : Tree} {path : String} {place : Place} {entry : Entry} {content : Content}

/-- What was put at a place stands there, unless the place is the root. -/
theorem get?_set_self (noDirectory : tree.isDirectory place = false) (entry : Entry) :
    (tree.set place entry).get? place = some entry := by
  have below : place ≠ [] := by
    rintro rfl
    cases noDirectory
  rw [get?, if_neg below, set, List.lookup_cons_self]

/-- Entries at one place do not matter for another one. -/
theorem lookup_filter_ne {elsewhere : Place} (different : elsewhere ≠ place)
    (entries : List (Place × Entry)) :
    (entries.filter fun other => other.1 ≠ place).lookup elsewhere =
      entries.lookup elsewhere := by
  induction entries with
  | nil => rfl
  | cons first entries inductionHypothesis =>
    rw [List.filter_cons, List.lookup_cons]
    split
    next =>
      rw [List.lookup_cons, inductionHypothesis]
    next here =>
      have same : first.1 = place := by simpa using here
      have notFound : (elsewhere == first.1) = false := by simpa [same] using different
      rw [inductionHypothesis, notFound]

/-- What was put at a place does not change what stands at others. -/
theorem get?_set_of_ne {elsewhere : Place} (different : elsewhere ≠ place) :
    (tree.set place entry).get? elsewhere = tree.get? elsewhere := by
  have notFound : (elsewhere == place) = false := by simpa using different
  rw [get?, get?, set, List.lookup_cons, notFound]
  simp only [lookup_filter_ne different]

/-- A file at a place that is no directory leaves the directories as they are. -/
theorem sameDirectories_set (noDirectory : tree.isDirectory place = false) (content : Content) :
    SameDirectories tree (tree.set place (.file content)) where
  workingDirectory := rfl
  isDirectory elsewhere := by
    by_cases same : elsewhere = place
    · rw [same, noDirectory]
      exact isDirectory_of_file (get?_set_self noDirectory _)
    · rw [isDirectory, isDirectory, get?_set_of_ne same]

/-- A path without a slash at its end has a name behind its last slash. -/
theorem afterLast_ne_nil (nonempty : path.toList ≠ []) (bare : withoutTrailingSlashes path = path) :
    afterLast '/' path.toList ≠ [] := by
  have kept : path.toList.reverse.dropWhile (· = '/') = path.toList.reverse := by
    have sameChars := congrArg String.toList bare
    rw [withoutTrailingSlashes, String.toList_ofList] at sameChars
    exact List.reverse_eq_iff.mp sameChars
  cases reversed : path.toList.reverse with
  | nil => exact absurd (List.reverse_eq_nil_iff.mp reversed) nonempty
  | cons c rest =>
    rw [reversed, List.dropWhile_eq_self_iff] at kept
    have noSlash := kept (Nat.zero_lt_succ _)
    rw [afterLast, reversed, List.takeWhile_cons_of_pos (by simpa using noSlash)]
    simp

/-- A path at which a file can be written has no slash at its end, and what it leads to is a file or
nothing. -/
theorem exists_target_of_writable_eq_ok (free : tree.writable path = .ok place) :
    withoutTrailingSlashes path = path ∧ ∃ target, tree.target path = .ok target ∧
      target.place = place ∧ target.entry? ≠ some .directory := by
  unfold writable at free
  by_cases bare : withoutTrailingSlashes path = path
  · refine ⟨bare, ?_⟩
    simp only [bare, ne_eq, not_true_eq_false, decide_false, Bool.false_and, Bool.false_eq_true,
      if_false] at free
    cases led : tree.target path with
    | error error =>
      rw [led] at free
      cases free
    | ok target =>
      rw [led] at free
      refine ⟨target, rfl, ?_⟩
      rcases target with ⟨found, content | _⟩ | ⟨directory, name⟩
      · cases free
        exact ⟨rfl, nofun⟩
      · cases free
      · cases free
        exact ⟨rfl, nofun⟩
  · exfalso
    simp only [bare, ne_eq, not_false_eq_true, decide_true, Bool.true_and, if_true] at free
    split at free
    next => cases free
    next =>
      cases led : tree.target (withoutTrailingSlashes path) with
      | error error =>
        rw [led] at free
        cases free
      | ok target =>
        rw [led] at free
        rcases target with ⟨found, content | _⟩ | ⟨directory, name⟩ <;> cases free

/-- A path at which a file can be written leads to the place of the file, which is no directory. -/
theorem place?_of_writable_eq_ok (free : tree.writable path = .ok place) :
    tree.place? path = some place ∧ tree.isDirectory place = false := by
  obtain ⟨-, target, led, rfl, noDirectory⟩ := exists_target_of_writable_eq_ok free
  obtain ⟨leads, stands⟩ := place?_of_target_eq_ok led
  refine ⟨leads, ?_⟩
  rw [isDirectory, stands]
  exact decide_eq_false noDirectory

/-- A file that stands where a path lets one be written is located by the path. -/
theorem SameDirectories.locate_of_writable (same : SameDirectories tree other)
    (free : tree.writable path = .ok place) (stands : other.get? place = some entry) :
    other.locate path = .ok (place, entry) := by
  obtain ⟨bare, target, led, rfl, -⟩ := exists_target_of_writable_eq_ok free
  have traced := (place?_of_target_eq_ok led).1
  rw [locate_eq_ok_iff, target_eq_walk led, walk_eq_present_iff]
  refine ⟨(same.place? path).trans traced, stands, Or.inr ?_⟩
  rw [getLast?_segments]
  intro slash
  have noName := congrArg String.toList (Option.some.inj slash)
  rw [String.toList_ofList] at noName
  exact afterLast_ne_nil (toList_ne_nil_of_target_eq_ok led) bare noName

/-- A file that is put where a path lets one be written is located by the path. -/
theorem locate_set_of_writable (free : tree.writable path = .ok place) (content : Content) :
    (tree.set place (.file content)).locate path = .ok (place, .file content) := by
  have noDirectory := (place?_of_writable_eq_ok free).2
  exact (sameDirectories_set noDirectory content).locate_of_writable free
    (get?_set_self noDirectory _)

/-- What is read is what stands where the path leads. -/
theorem read_eq_ok_iff {content : Content} :
    tree.read path = .ok content ↔ ∃ place, tree.locate path = .ok (place, .file content) := by
  rw [read]
  cases located : tree.locate path with
  | error error => simp [bind, Except.bind]
  | ok found =>
    obtain ⟨place, entry⟩ := found
    cases entry <;> simp [bind, Except.bind, pure, Except.pure, throw, throwThe, MonadExceptOf.throw]

end Write

/-- An absolute path has a slash before each name of its place. -/
theorem toList_absolute (place : Place) :
    (absolute place).toList = joinPath (place.map String.toList) false := by
  cases place with
  | nil => rfl
  | cons first others =>
    rw [absolute, if_neg nofun, String.toList_join, List.flatMap_map]
    simp [joinPath, List.flatMap_map]

/-- The names of a place can be read off its absolute path. -/
theorem names_absolute {place : Place} (named : IsNamed place) :
    (splitAt '/' (absolute place).toList).filter (· ≠ []) = place.map String.toList := by
  rw [toList_absolute]
  exact filter_splitAt_joinPath (List.forall_mem_map.mpr named) false

/-- Places that can be named have different absolute paths. -/
theorem absolute_injOn {first second : Place} (firstNamed : IsNamed first)
    (secondNamed : IsNamed second) (same : absolute first = absolute second) : first = second := by
  have names := names_absolute firstNamed
  rw [same, names_absolute secondNamed] at names
  exact (List.map_inj_right fun _ _ => String.toList_inj.mp).mp names.symm

section Fetch

variable {tree : Tree} {path destination url : String}

/-- A path is resolved to the absolute path of the place where it locates something. -/
theorem resolve_eq_ok_iff {resolved : String} :
    tree.resolve path = .ok resolved ↔
      ∃ place entry, tree.locate path = .ok (place, entry) ∧ absolute place = resolved := by
  unfold resolve
  cases tree.locate path with
  | error error => exact iff_of_false nofun nofun
  | ok found =>
    constructor
    · intro resolves
      cases resolves
      exact ⟨found.1, found.2, rfl, rfl⟩
    · rintro ⟨place, entry, located, rfl⟩
      cases located
      rfl

/-- The absolute path that two paths have in common, in a tree. -/
def common? (tree : Tree) (path other : String) : Option String :=
  match tree.resolve path, tree.resolve other with
  | .ok first, .ok second => if first = second then some first else none
  | _, _ => none

/-- Two paths that locate the same have an absolute path in common. -/
theorem common?_eq_some {other : String} {place : Place} {entry : Entry}
    (located : tree.locate path = .ok (place, entry))
    (otherLocated : tree.locate other = .ok (place, entry)) :
    tree.common? path other = some (absolute place) := by
  rw [common?, resolve_eq_ok_iff.mpr ⟨place, entry, located, rfl⟩,
    resolve_eq_ok_iff.mpr ⟨place, entry, otherLocated, rfl⟩]
  exact if_pos rfl

/-- Two paths have an absolute path in common exactly if they locate the same. -/
theorem common?_eq_some_iff (begins : IsNamed tree.workingDirectory) {other resolved : String} :
    tree.common? path other = some resolved ↔ ∃ place entry, absolute place = resolved ∧
      tree.locate path = .ok (place, entry) ∧ tree.locate other = .ok (place, entry) := by
  constructor
  · intro common
    unfold common? at common
    split at common
    next firstResolves secondResolves =>
      obtain ⟨place, entry, located, rfl⟩ := resolve_eq_ok_iff.mp firstResolves
      obtain ⟨otherPlace, found, otherLocated, rfl⟩ := resolve_eq_ok_iff.mp secondResolves
      split at common
      next same =>
        obtain ⟨leads, stands⟩ := place?_of_locate_eq_ok located
        obtain ⟨otherLeads, otherStands⟩ := place?_of_locate_eq_ok otherLocated
        obtain rfl := absolute_injOn (isNamed_of_place? begins leads)
          (isNamed_of_place? begins otherLeads) same
        obtain rfl := Option.some.inj (stands.symm.trans otherStands)
        exact ⟨place, entry, Option.some.inj common, located, otherLocated⟩
      next => cases common
    next => cases common
  · rintro ⟨place, entry, rfl, located, otherLocated⟩
    exact common?_eq_some located otherLocated

/-- The file system finds out what two paths have in common without changing the tree. -/
theorem sameFile?_eq (tree : Tree) (path other : String) :
    system.sameFile? path other tree = (tree.common? path other, tree) := by
  have run : system.sameFile? path other tree =
      (match tree.resolve path, tree.resolve other with
        | .ok first, .ok second => pure (if first = second then some first else none)
        | _, _ => pure none : StateM Tree (Option String)) tree := rfl
  rw [run, common?]
  cases tree.resolve path <;> cases tree.resolve other <;> rfl

/-- A fetch inspects the file if it is its own destination, and copies it otherwise. -/
theorem fetch_eq (names : localPath url.toList = .ok path) (destination : String) :
    system.fetch url destination tree =
      match tree.common? path destination with
      | some absolute =>
        match tree.size absolute with
        | .ok bytes => (.alreadyPresent bytes, tree)
        | .error error =>
          (.failed ("cannot inspect '" ++ absolute ++ "': " ++ error.message), tree)
      | none =>
        match tree.copy path destination with
        | .ok (bytes, after) => (.saved bytes, after)
        | .error error => (.failed ("cannot copy '" ++ path ++ "': " ++ error.message), tree) := by
  unfold System.fetch
  rw [names]
  simp only [bind, StateT.bind, sameFile?_eq]
  cases tree.common? path destination with
  | some absolute =>
    simp only [bind, StateT.bind, system, query]
    cases tree.size absolute <;> rfl
  | none =>
    simp only [bind, StateT.bind, system, update]
    cases tree.copy path destination <;> rfl

/-- A copy takes the contents of a file to a place where a file can be written, unless the file stands
there itself. -/
theorem exists_of_copy_eq_ok {source : String} {bytes : Nat} {after : Tree}
    (copied : tree.copy source destination = .ok (bytes, after)) :
    ∃ found content place, tree.locate source = .ok (found, .file content) ∧
      tree.writable destination = .ok place ∧
      (found ≠ place → bytes = content.length ∧ after = tree.set place (.file content)) := by
  unfold copy at copied
  cases located : tree.locate source with
  | error error =>
    rw [located] at copied
    cases copied
  | ok found =>
    rw [located] at copied
    obtain ⟨found, content | _⟩ := found
    · cases free : tree.writable destination with
      | error error =>
        rw [free] at copied
        cases copied
      | ok place =>
        rw [free] at copied
        refine ⟨found, content, place, rfl, rfl, fun apart => ?_⟩
        cases copied
        rw [if_neg (Ne.symm apart)]
        exact ⟨rfl, rfl⟩
    · cases copied

/-- A copy between paths that have no absolute path in common takes the contents of a file to another
place. A source at the place of the destination would have the same absolute path. -/
theorem exists_of_copy_apart {source : String} {bytes : Nat} {after : Tree}
    (separate : tree.common? source destination = none)
    (copied : tree.copy source destination = .ok (bytes, after)) :
    ∃ found content place, tree.locate source = .ok (found, .file content) ∧
      tree.writable destination = .ok place ∧ found ≠ place ∧ bytes = content.length ∧
      after = tree.set place (.file content) := by
  obtain ⟨found, content, place, located, free, copies⟩ := exists_of_copy_eq_ok copied
  have apart : found ≠ place := by
    rintro rfl
    have there := (SameDirectories.refl tree).locate_of_writable free
      (place?_of_locate_eq_ok located).2
    rw [common?_eq_some located there] at separate
    cases separate
  obtain ⟨bytes, after⟩ := copies apart
  exact ⟨found, content, place, located, free, apart, bytes, after⟩

/-- What a fetch of a local file does. -/
inductive Fetches (tree : Tree) (url destination : String) : FetchOutcome → Tree → Prop where
  /-- Nothing was done. -/
  | failed (reason : String) : Fetches tree url destination (.failed reason) tree
  /-- The file is its own destination. -/
  | alreadyPresent {path resolved : String} {bytes : Nat} (names : localPath url.toList = .ok path)
      (together : tree.common? path destination = some resolved)
      (size : tree.size resolved = .ok bytes) :
      Fetches tree url destination (.alreadyPresent bytes) tree
  /-- The contents were put at another place. -/
  | saved {path : String} {source place : Place} {content : Content}
      (names : localPath url.toList = .ok path)
      (located : tree.locate path = .ok (source, .file content))
      (free : tree.writable destination = .ok place) (apart : source ≠ place) :
      Fetches tree url destination (.saved content.length) (tree.set place (.file content))

/-- A fetch of a local file fails, or finds the file in its place, or saves it elsewhere. -/
theorem fetch_fetches (tree : Tree) (url destination : String) :
    Fetches tree url destination (system.fetch url destination tree).1
      (system.fetch url destination tree).2 := by
  cases names : localPath url.toList with
  | error reason =>
    have fails : system.fetch url destination tree = (.failed reason, tree) := by
      unfold System.fetch
      rw [names]
      rfl
    rw [fails]
    exact .failed reason
  | ok path =>
    rw [fetch_eq names]
    cases common : tree.common? path destination with
    | some resolved =>
      dsimp only
      cases size : tree.size resolved with
      | ok bytes => exact .alreadyPresent names common size
      | error error => exact .failed _
    | none =>
      dsimp only
      cases copied : tree.copy path destination with
      | error error => exact .failed _
      | ok result =>
        obtain ⟨bytes, after⟩ := result
        obtain ⟨source, content, place, located, free, apart, rfl, rfl⟩ :=
          exists_of_copy_apart common copied
        exact .saved names located free apart

end Fetch

end Tree

end LinkSieve.Files
