import LinkSieve.Files.Tree
import LinkSieve.Proofs.Link.FileName
/-!
# Where paths lead

A path is followed in two steps. Which place it leads to depends on the directories alone, whether
or not there is anything at the place. What is found depends on what stands there, and on a slash at
the end of the path, which only a directory can have behind it. So a tree with the same directories
leads every path to the same place, and a path that does not lead to a changed place is not
affected by the change.
-/

namespace LinkSieve.Files

open LinkSieve.Link LinkSieve.Text

/-- A place that can be named by paths: every name is a file name. -/
def IsNamed (place : Place) : Prop := ∀ name ∈ place, IsFileName name.toList

instance (place : Place) : Decidable (IsNamed place) :=
  inferInstanceAs (Decidable (∀ name ∈ place, IsFileName name.toList))

namespace Tree

namespace Target

/-- The place of a target. -/
def place : Target → Place
  | present place _ => place
  | missing directory name => directory ++ [name]

/-- What stands at a target. -/
def entry? : Target → Option Entry
  | present _ entry => some entry
  | missing .. => none

end Target

section Trace

/-- The place that segments lead to from a place, whether or not there is anything. Names lead on
from directories only. Behind anything else there can be slashes. -/
def trace (tree : Tree) (place : Place) : (segments : List String) → Option Place
  | [] => some place
  | segment :: rest =>
    if tree.isDirectory place then
      if segment = "" ∨ segment = "." then trace tree place rest
      else if segment = ".." then trace tree place.dropLast rest
      else if segment.utf8ByteSize > maxNameLength then none
      else trace tree (place ++ [segment]) rest
    else if (segment :: rest).all (· = "") then some place
    else none

variable {tree : Tree} {place reached : Place} {segments : List String}

/-- Whether there is a directory is told by what stands at the place. -/
theorem isDirectory_iff : tree.isDirectory place = true ↔ tree.get? place = some .directory :=
  decide_eq_true_iff

/-- Nothing is no directory. -/
theorem isDirectory_of_absent (absent : tree.get? place = none) :
    tree.isDirectory place = false := by
  rw [isDirectory, absent]
  rfl

/-- A file is no directory. -/
theorem isDirectory_of_file {content : Content} (stands : tree.get? place = some (.file content)) :
    tree.isDirectory place = false := by
  rw [isDirectory, stands]
  rfl

/-- A name leads on from a directory. -/
theorem trace_name {segment : String} {rest : List String}
    (directory : tree.get? place = some .directory) (name : ¬(segment = "" ∨ segment = "."))
    (noDots : ¬segment = "..") (short : ¬segment.utf8ByteSize > maxNameLength) :
    tree.trace place (segment :: rest) = tree.trace (place ++ [segment]) rest := by
  rw [trace, if_pos (isDirectory_iff.mpr directory), if_neg name, if_neg noDots, if_neg short]

/-- From what is no directory only slashes lead on, and these lead nowhere else. -/
theorem trace_of_not_isDirectory (noDirectory : tree.isDirectory place = false) :
    tree.trace place segments = if segments.all (· = "") then some place else none := by
  cases segments with
  | nil => rfl
  | cons segment rest =>
    rw [trace, noDirectory]
    rfl

/-- A target of a walk is at the place that the segments lead to, and it tells what stands there.
The induction follows the walk. A name may be missing only before slashes, which lead nowhere else. -/
theorem trace_of_walk_eq_ok {target : Target} (walked : tree.walk place segments = .ok target) :
    tree.trace place segments = some target.place ∧ tree.get? target.place = target.entry? := by
  fun_induction tree.walk place segments
  case case1 stands =>
    cases walked
    exact ⟨rfl, stands⟩
  case case5 stands dot inductionHypothesis =>
    rw [trace, if_pos (isDirectory_iff.mpr stands), if_pos dot]
    exact inductionHypothesis walked
  case case6 stands name inductionHypothesis =>
    rw [trace, if_pos (isDirectory_iff.mpr stands), if_neg name, if_pos rfl]
    exact inductionHypothesis walked
  case case8 stands name noDots short next there inductionHypothesis =>
    rw [trace_name stands name noDots short]
    exact inductionHypothesis walked
  case case9 stands name noDots short next absent slashes =>
    cases walked
    have absent : tree.get? next = none := Option.not_isSome_iff_eq_none.mp absent
    rw [trace_name stands name noDots short,
      trace_of_not_isDirectory (isDirectory_of_absent absent), if_pos slashes]
    exact ⟨rfl, absent⟩
  all_goals cases walked

/-- Segments lead to something that stands at a place. Only a directory can have a slash behind
it. -/
structure Finds (tree : Tree) (place : Place) (segments : List String) (reached : Place)
    (entry : Entry) : Prop where
  traced : tree.trace place segments = some reached
  stands : tree.get? reached = some entry
  slash : entry = .directory ∨ segments.getLast? ≠ some ""

variable {entry : Entry}

/-- Where there is no directory, nothing is found behind anything. -/
theorem not_finds (noDirectory : tree.isDirectory place = false)
    (behind : segments ≠ [] ∨ tree.get? place = none) :
    ¬tree.Finds place segments reached entry := by
  rintro ⟨traced, stands, slash⟩
  rw [trace_of_not_isDirectory noDirectory] at traced
  split at traced
  next slashes =>
    obtain rfl := Option.some.inj traced
    rcases behind with nonempty | absent
    · have last : segments.getLast? = some "" := by
        rw [List.getLast?_eq_some_getLast nonempty]
        exact congrArg some
          (of_decide_eq_true (List.all_eq_true.mp slashes _ (List.getLast_mem nonempty)))
      obtain rfl := slash.resolve_right fun different => different last
      rw [isDirectory, stands] at noDirectory
      exact Bool.noConfusion noDirectory
    · rw [absent] at stands
      cases stands
  next => cases traced

/-- A segment that leads to a place does not change what is found from there. -/
theorem finds_cons {next : Place} {segment : String} {rest : List String}
    (leads : tree.trace place (segment :: rest) = tree.trace next rest)
    (last : segment = "" → tree.isDirectory next = true) :
    tree.Finds place (segment :: rest) reached entry ↔ tree.Finds next rest reached entry := by
  cases rest with
  | nil =>
    constructor
    · rintro ⟨traced, stands, _⟩
      exact ⟨leads ▸ traced, stands, Or.inr nofun⟩
    · rintro ⟨traced, stands, _⟩
      refine ⟨leads ▸ traced, stands, ?_⟩
      obtain rfl := Option.some.inj traced
      by_cases empty : segment = ""
      · rw [isDirectory_iff.mp (last empty)] at stands
        exact Or.inl (Option.some.inj stands).symm
      · exact Or.inr fun same => empty (Option.some.inj same)
  | cons other others =>
    have sameLast : (segment :: other :: others).getLast? = (other :: others).getLast? := rfl
    constructor
    · rintro ⟨traced, stands, slash⟩
      exact ⟨leads ▸ traced, stands, sameLast ▸ slash⟩
    · rintro ⟨traced, stands, slash⟩
      exact ⟨leads ▸ traced, stands, sameLast ▸ slash⟩

/-- A missing name leads to nothing. -/
theorem not_finds_name {segment : String} {rest : List String}
    (directory : tree.get? place = some .directory) (name : ¬(segment = "" ∨ segment = "."))
    (noDots : ¬segment = "..") (short : ¬segment.utf8ByteSize > maxNameLength)
    (absent : ¬(tree.get? (place ++ [segment])).isSome = true) :
    ¬tree.Finds place (segment :: rest) reached entry := by
  have absent := Option.not_isSome_iff_eq_none.mp absent
  rw [finds_cons (trace_name directory name noDots short) fun empty => absurd (Or.inl empty) name]
  exact not_finds (isDirectory_of_absent absent) (Or.inr absent)

/-- A walk ends at something exactly if its segments lead to it. The induction follows the walk: from
a directory both go the same way, and where the walk stops, nothing is found. -/
theorem walk_eq_present_iff :
    tree.walk place segments = .ok (.present reached entry) ↔
      tree.Finds place segments reached entry := by
  fun_induction tree.walk place segments
  case case1 stands =>
    constructor
    · intro walked
      cases walked
      exact ⟨rfl, stands, Or.inr nofun⟩
    · rintro ⟨traced, found, _⟩
      obtain rfl := Option.some.inj traced
      rw [stands] at found
      rw [Option.some.inj found]
  case case2 absent =>
    exact iff_of_false nofun (not_finds (isDirectory_of_absent absent) (Or.inr absent))
  case case3 absent =>
    exact iff_of_false nofun (not_finds (isDirectory_of_absent absent) (Or.inr absent))
  case case4 stands =>
    exact iff_of_false nofun
      (not_finds (isDirectory_of_file stands) (Or.inl (List.cons_ne_nil _ _)))
  case case5 stands dot inductionHypothesis =>
    have directory := isDirectory_iff.mpr stands
    rw [inductionHypothesis, finds_cons (by rw [trace, if_pos directory, if_pos dot])]
    exact fun _ => directory
  case case6 stands name inductionHypothesis =>
    have directory := isDirectory_iff.mpr stands
    rw [inductionHypothesis, finds_cons (by rw [trace, if_pos directory, if_neg name, if_pos rfl])]
    exact nofun
  case case7 stands name noDots long =>
    refine iff_of_false nofun ?_
    rintro ⟨traced, _, _⟩
    rw [trace, if_pos (isDirectory_iff.mpr stands), if_neg name, if_neg noDots,
      if_pos long] at traced
    cases traced
  case case8 stands name noDots short next there inductionHypothesis =>
    rw [inductionHypothesis, finds_cons (trace_name stands name noDots short)]
    exact fun empty => absurd (Or.inl empty) name
  case case9 stands name noDots short next absent slashes =>
    exact iff_of_false nofun (not_finds_name stands name noDots short absent)
  case case10 stands name noDots short next absent names =>
    exact iff_of_false nofun (not_finds_name stands name noDots short absent)

/-- How a segment leads from one place to another. -/
inductive Leads (place : Place) : String → Place → Prop where
  | slash : Leads place "" place
  | dot : Leads place "." place
  | dots : Leads place ".." place.dropLast
  | name {segment : String} (nonempty : segment ≠ "") (noDot : segment ≠ ".")
      (noDots : segment ≠ "..") : Leads place segment (place ++ [segment])

/-- A trace goes on from where its first segment leads. -/
theorem exists_leads_of_trace_cons {segment : String} {rest : List String}
    (traced : tree.trace place (segment :: rest) = some reached) :
    ∃ next, Leads place segment next ∧ tree.trace next rest = some reached := by
  cases directory : tree.isDirectory place with
  | true =>
    rw [trace, directory, if_pos rfl] at traced
    split at traced
    next same =>
      rcases same with rfl | rfl
      · exact ⟨place, .slash, traced⟩
      · exact ⟨place, .dot, traced⟩
    next name =>
      obtain ⟨nonempty, noDot⟩ := not_or.mp name
      split at traced
      next same =>
        obtain rfl := same
        exact ⟨_, .dots, traced⟩
      next noDots =>
        split at traced
        next => cases traced
        next => exact ⟨_, .name nonempty noDot noDots, traced⟩
  | false =>
    rw [trace_of_not_isDirectory directory, List.all_cons] at traced
    split at traced
    next slashes =>
      obtain ⟨empty, others⟩ := Bool.and_eq_true_iff.mp slashes
      obtain rfl := of_decide_eq_true empty
      refine ⟨place, .slash, ?_⟩
      rw [trace_of_not_isDirectory directory, if_pos others, traced]
    next => cases traced

/-- The names of a place that a trace leads to are file names, if those of the place are where it
begins. -/
theorem isNamed_of_trace (begins : IsNamed place)
    (noSlash : ∀ segment ∈ segments, '/' ∉ segment.toList)
    (traced : tree.trace place segments = some reached) : IsNamed reached := by
  induction segments generalizing place with
  | nil =>
    obtain rfl := Option.some.inj traced
    exact begins
  | cons segment rest inductionHypothesis =>
    obtain ⟨next, leads, traced⟩ := exists_leads_of_trace_cons traced
    refine inductionHypothesis ?_ (fun other member => noSlash other (.tail _ member)) traced
    cases leads with
    | slash => exact begins
    | dot => exact begins
    | dots => exact fun name member => begins name ((List.dropLast_sublist _).subset member)
    | name nonempty noDot noDots =>
      have isFileName : IsFileName segment.toList := {
        nonempty := fun same => nonempty (String.toList_inj.mp same)
        noSlash := noSlash segment List.mem_cons_self
        noDot := fun same => noDot (String.toList_inj.mp same)
        noDots := fun same => noDots (String.toList_inj.mp same) }
      intro name member
      rcases List.mem_append.mp member with inPlace | isSegment
      · exact begins name inPlace
      · rwa [List.mem_singleton.mp isSegment]

/-- File names lead on from a place along them. -/
theorem eq_append_of_trace (named : IsNamed segments)
    (traced : tree.trace place segments = some reached) : reached = place ++ segments := by
  induction segments generalizing place with
  | nil =>
    obtain rfl := Option.some.inj traced
    exact (List.append_nil _).symm
  | cons segment rest inductionHypothesis =>
    obtain ⟨isFileName, others⟩ := List.forall_mem_cons.mp named
    obtain ⟨next, leads, traced⟩ := exists_leads_of_trace_cons traced
    rw [inductionHypothesis others traced]
    cases leads with
    | slash => exact absurd rfl isFileName.nonempty
    | dot => exact absurd rfl isFileName.noDot
    | dots => exact absurd rfl isFileName.noDots
    | name => rw [List.append_assoc, List.singleton_append]

/-- Segments with a file name at the end lead to a place of this name. -/
theorem getLast?_of_trace {name : String} (isFileName : IsFileName name.toList)
    (last : segments.getLast? = some name) (traced : tree.trace place segments = some reached) :
    List.getLast? reached = some name := by
  induction segments generalizing place with
  | nil => cases last
  | cons segment rest inductionHypothesis =>
    obtain ⟨next, leads, traced⟩ := exists_leads_of_trace_cons traced
    cases rest with
    | nil =>
      obtain rfl := Option.some.inj last
      obtain rfl := Option.some.inj traced
      cases leads with
      | slash => exact absurd rfl isFileName.nonempty
      | dot => exact absurd rfl isFileName.noDot
      | dots => exact absurd rfl isFileName.noDots
      | name => exact List.getLast?_concat
    | cons other others => exact inductionHypothesis last traced

end Trace

section Path

variable {tree : Tree} {path : String} {place : Place} {entry : Entry}

/-- Where a path begins. -/
def origin (tree : Tree) (path : String) : Place :=
  if path.toList.head? = some '/' then [] else tree.workingDirectory

/-- The place that a path leads to, whether or not there is anything. -/
def place? (tree : Tree) (path : String) : Option Place :=
  tree.trace (tree.origin path) (segments path)

/-- A path that leads anywhere is one that can be walked, and so it is walked in every tree. -/
theorem target_eq_walk {target : Target} (led : tree.target path = .ok target) (other : Tree) :
    other.target path = other.walk (other.origin path) (segments path) := by
  unfold Tree.target at led ⊢
  split at led
  next => cases led
  next valid =>
    split at led
    next => cases led
    next nonempty =>
      split at led
      next => cases led
      next short =>
        rw [if_neg valid, if_neg nonempty, if_neg short]
        rfl

/-- An empty path leads nowhere. -/
theorem toList_ne_nil_of_target_eq_ok {target : Target} (led : tree.target path = .ok target) :
    path.toList ≠ [] := by
  intro empty
  rw [Tree.target, empty] at led
  cases led

/-- A target of a path is at the place that the path leads to, and it tells what stands there. -/
theorem place?_of_target_eq_ok {target : Target} (led : tree.target path = .ok target) :
    tree.place? path = some target.place ∧ tree.get? target.place = target.entry? :=
  trace_of_walk_eq_ok ((target_eq_walk led tree).symm.trans led)

/-- What is located is what is present. -/
theorem locate_eq_ok_iff :
    tree.locate path = .ok (place, entry) ↔ tree.target path = .ok (.present place entry) := by
  unfold locate
  cases tree.target path with
  | error error => exact iff_of_false nofun nofun
  | ok target =>
    cases target with
    | present found stands =>
      constructor
      · intro located
        cases located
        rfl
      · intro led
        cases led
        rfl
    | missing directory name => exact iff_of_false nofun nofun

/-- Something located stands at the place that the path leads to. -/
theorem place?_of_locate_eq_ok (located : tree.locate path = .ok (place, entry)) :
    tree.place? path = some place ∧ tree.get? place = some entry :=
  place?_of_target_eq_ok (locate_eq_ok_iff.mp located)

/-- The segments of a path have no slashes. -/
theorem not_mem_of_mem_segments {segment : String} (member : segment ∈ segments path) :
    '/' ∉ segment.toList := by
  obtain ⟨part, isPart, rfl⟩ := List.mem_map.mp member
  rw [String.toList_ofList]
  exact not_mem_of_mem_splitAt isPart

/-- The last segment of a path is what stands behind its last slash. -/
theorem getLast?_segments (path : String) :
    (segments path).getLast? = some (String.ofList (afterLast '/' path.toList)) := by
  rw [segments, List.getLast?_map, getLast?_splitAt]
  rfl

/-- A path leads to a place with a name of its own, if the working directory has one. -/
theorem isNamed_of_place? (begins : IsNamed tree.workingDirectory)
    (leads : tree.place? path = some place) : IsNamed place := by
  refine isNamed_of_trace ?_ (fun _ => not_mem_of_mem_segments) leads
  unfold origin
  split
  next => exact nofun
  next => exact begins

/-- A path with a file name behind its last slash leads to a place of this name. -/
theorem getLast?_of_place? {name : String} (isFileName : IsFileName name.toList)
    (last : afterLast '/' path.toList = name.toList) (leads : tree.place? path = some place) :
    List.getLast? place = some name := by
  refine getLast?_of_trace isFileName ?_ leads
  rw [getLast?_segments, last, String.ofList_toList]

end Path

/-- A tree that has the directories of another one, and its working directory. What stands at other
places may differ. -/
structure SameDirectories (tree other : Tree) : Prop where
  workingDirectory : other.workingDirectory = tree.workingDirectory
  isDirectory : ∀ place, other.isDirectory place = tree.isDirectory place

namespace SameDirectories

variable {tree other : Tree} {path : String} {place : Place} {entry : Entry}

/-- A tree has its own directories. -/
theorem refl (tree : Tree) : SameDirectories tree tree := ⟨rfl, fun _ => rfl⟩

/-- The directories of two trees are the same from both sides. -/
theorem symm (same : SameDirectories tree other) : SameDirectories other tree :=
  ⟨same.workingDirectory.symm, fun place => (same.isDirectory place).symm⟩

/-- The directories are the same from one tree over another to a third. -/
theorem trans {third : Tree} (first : SameDirectories tree other)
    (second : SameDirectories other third) : SameDirectories tree third :=
  ⟨second.workingDirectory.trans first.workingDirectory,
    fun place => (second.isDirectory place).trans (first.isDirectory place)⟩

/-- Paths begin at the same place. -/
theorem origin (same : SameDirectories tree other) (path : String) :
    other.origin path = tree.origin path := by
  rw [Tree.origin, Tree.origin, same.workingDirectory]

/-- Segments lead to the same place. -/
theorem trace (same : SameDirectories tree other) (place : Place) (segments : List String) :
    other.trace place segments = tree.trace place segments := by
  induction segments generalizing place with
  | nil => rfl
  | cons segment rest inductionHypothesis =>
    simp only [Tree.trace, same.isDirectory, inductionHypothesis]

/-- Paths lead to the same place. -/
theorem place? (same : SameDirectories tree other) (path : String) :
    other.place? path = tree.place? path := by
  rw [Tree.place?, Tree.place?, same.origin, same.trace]

/-- What is located in one tree is located in the other one if it stands there too. -/
theorem locate (same : SameDirectories tree other) (located : tree.locate path = .ok (place, entry))
    (stands : other.get? place = some entry) : other.locate path = .ok (place, entry) := by
  have led := locate_eq_ok_iff.mp located
  have walked := (target_eq_walk led tree).symm.trans led
  have finds := walk_eq_present_iff.mp walked
  rw [locate_eq_ok_iff, target_eq_walk led, walk_eq_present_iff, same.origin]
  exact ⟨(same.trace _ _).trans finds.traced, stands, finds.slash⟩

end SameDirectories

end Tree

end LinkSieve.Files
