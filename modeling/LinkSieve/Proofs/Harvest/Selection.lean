import Mathlib.Data.List.Induction
import Mathlib.Data.List.Nodup
import LinkSieve.Harvest.Selection
/-!
# Selections of several pages

Repetitions are dropped in two ways: within a page by a set of the links that were seen, and across
pages by looking through the list of those that were selected. The set and the list have the same
links, so both ways lead to the same list. The selections of pages, merged one after the other, are
therefore the selection from all their links at once.

Merging is associative for any selections, also for those that repeat links. What a selection repeats
in front stays, and what it repeats behind is dropped.
-/

namespace LinkSieve.Harvest

/-- A link that a list has already changes nothing. -/
theorem addNew_of_mem {links : List String} {link : String} (again : link ∈ links) :
    addNew links link = links := if_pos again

/-- A new link is put at the end. -/
theorem addNew_of_not_mem {links : List String} {link : String} (fresh : link ∉ links) :
    addNew links link = links ++ [link] := if_neg fresh

/-- The list has its links and the one that was put at its end. -/
theorem mem_addNew {links : List String} {link other : String} :
    other ∈ addNew links link ↔ other ∈ links ∨ other = link := by
  by_cases again : link ∈ links
  · rw [addNew_of_mem again]
    constructor
    · exact Or.inl
    · rintro (member | rfl)
      · exact member
      · exact again
  · rw [addNew_of_not_mem again, List.mem_append, List.mem_singleton]

/-- The same for links one after the other. -/
theorem mem_foldl_addNew {links kept : List String} {link : String} :
    link ∈ links.foldl addNew kept ↔ link ∈ kept ∨ link ∈ links := by
  induction links generalizing kept with
  | nil => simp
  | cons first links inductionHypothesis =>
    rw [List.foldl_cons, inductionHypothesis, mem_addNew, List.mem_cons, or_assoc]

namespace Collected

/-- The links that were seen are those that are in the list. -/
def IsConsistent (collected : Collected) : Prop :=
  ∀ link, link ∈ collected.seen ↔ link ∈ collected.accepted

variable {collected : Collected}

/-- Collecting a link is putting it at the end of the list unless it is in it. -/
theorem collect_spec (consistent : collected.IsConsistent) (link : String) :
    (collected.collect link).IsConsistent ∧
      (collected.collect link).accepted = addNew collected.accepted link := by
  unfold collect
  split
  next again => exact ⟨consistent, (addNew_of_mem ((consistent link).mp again)).symm⟩
  next fresh =>
    have isNew : link ∉ collected.accepted := fun member => fresh ((consistent link).mpr member)
    refine ⟨fun other => ?_, (addNew_of_not_mem isNew).symm⟩
    rw [List.mem_cons, List.mem_append, List.mem_singleton, consistent other, or_comm]

/-- Collecting links one after the other is putting them into the list one after the other. -/
theorem accepted_foldl_collect (consistent : collected.IsConsistent) (links : List String) :
    (links.foldl collect collected).accepted = links.foldl addNew collected.accepted := by
  induction links generalizing collected with
  | nil => rfl
  | cons link links inductionHypothesis =>
    obtain ⟨stillConsistent, added⟩ := collect_spec consistent link
    rw [List.foldl_cons, List.foldl_cons, inductionHypothesis stillConsistent, added]

/-- No links were seen, and none are in the list. -/
theorem isConsistent_empty : empty.IsConsistent := fun _ => Iff.rfl

end Collected

/-- It makes no difference whether links are put behind others before or after those are put behind
further ones. A link that repeats one of `kept` repeats it in the whole list as well. -/
theorem foldl_addNew_foldl_addNew (links kept before : List String) :
    (links.foldl addNew kept).foldl addNew before =
      links.foldl addNew (kept.foldl addNew before) := by
  induction links generalizing kept with
  | nil => rfl
  | cons link links inductionHypothesis =>
    have step :
        (addNew kept link).foldl addNew before = addNew (kept.foldl addNew before) link := by
      by_cases again : link ∈ kept
      · have repeated : link ∈ kept.foldl addNew before := mem_foldl_addNew.mpr (Or.inr again)
        rw [addNew_of_mem again, addNew_of_mem repeated]
      · rw [addNew_of_not_mem again, List.foldl_append, List.foldl_cons, List.foldl_nil]
    rw [List.foldl_cons, List.foldl_cons, inductionHypothesis, step]

/-- A list has those subjects that are accepted, each of them once, in the order in which they occur
for the first time. -/
structure Selects (accepts : String → Bool) (subjects accepted : List String) : Prop where
  unique : accepted.Nodup
  ordered : accepted.Pairwise fun first second => subjects.idxOf first < subjects.idxOf second
  mem_iff : ∀ subject, subject ∈ accepted ↔ subject ∈ subjects ∧ accepts subject = true

namespace Selects

variable {accepts : String → Bool} {subjects accepted : List String}

/-- Further subjects do not move the first places of those before them. -/
theorem ordered_append (selects : Selects accepts subjects accepted) (more : List String) :
    accepted.Pairwise fun first second =>
      (subjects ++ more).idxOf first < (subjects ++ more).idxOf second := by
  have inSubjects (subject : String) (member : subject ∈ accepted) : subject ∈ subjects :=
    ((selects.mem_iff subject).mp member).1
  refine selects.ordered.imp_of_mem ?_
  intro first second firstMember secondMember earlier
  rwa [List.idxOf_append_of_mem (inSubjects first firstMember),
    List.idxOf_append_of_mem (inSubjects second secondMember)]

/-- A subject that is not accepted changes nothing. -/
theorem snoc_rejected {subject : String} (selects : Selects accepts subjects accepted)
    (rejected : accepts subject = false) : Selects accepts (subjects ++ [subject]) accepted where
  unique := selects.unique
  ordered := selects.ordered_append [subject]
  mem_iff other := by
    rw [selects.mem_iff, List.mem_append, List.mem_singleton]
    constructor
    · rintro ⟨member, accepted⟩
      exact ⟨Or.inl member, accepted⟩
    · rintro ⟨member | rfl, accepted⟩
      · exact ⟨member, accepted⟩
      · simp [rejected] at accepted

/-- A subject that is accepted comes last if it is new. -/
theorem snoc_accepted {subject : String} (selects : Selects accepts subjects accepted)
    (isAccepted : accepts subject = true) :
    Selects accepts (subjects ++ [subject]) (addNew accepted subject) := by
  have members (other : String) :
      other ∈ addNew accepted subject ↔
        other ∈ subjects ++ [subject] ∧ accepts other = true := by
    rw [mem_addNew, selects.mem_iff, List.mem_append, List.mem_singleton, or_and_right]
    refine or_congr_right ⟨fun same => ⟨same, ?_⟩, And.left⟩
    rw [same, isAccepted]
  have ordered := selects.ordered_append [subject]
  by_cases again : subject ∈ accepted
  · rw [addNew_of_mem again] at members ⊢
    exact ⟨selects.unique, ordered, members⟩
  · have fresh : subject ∉ subjects := fun member =>
      again ((selects.mem_iff subject).mpr ⟨member, isAccepted⟩)
    rw [addNew_of_not_mem again] at members ⊢
    refine ⟨?_, ?_, members⟩
    · rw [← List.concat_eq_append]
      exact selects.unique.concat again
    · rw [List.pairwise_append]
      refine ⟨ordered, List.pairwise_singleton _ _, ?_⟩
      intro first member second last
      have earlier : subjects.idxOf first < subjects.length :=
        List.idxOf_lt_length_iff.mpr ((selects.mem_iff first).mp member).1
      rw [List.mem_singleton.mp last,
        List.idxOf_append_of_mem ((selects.mem_iff first).mp member).1,
        List.idxOf_append_of_notMem fresh]
      omega

end Selects

/-- Links that are tested and collected one after the other are selected. The induction is on the
links from the last one, since the places of links are counted from the first one. -/
theorem selects_foldl_addNew (accepts : String → Bool) (subjects : List String) :
    Selects accepts subjects ((subjects.filter accepts).foldl addNew []) := by
  induction subjects using List.reverseRecOn with
  | nil => exact ⟨List.nodup_nil, List.Pairwise.nil, fun subject => by simp⟩
  | append_singleton subjects subject inductionHypothesis =>
    rw [List.filter_append, List.foldl_append]
    by_cases accepted : accepts subject = true
    · rw [List.filter_cons_of_pos accepted]
      exact inductionHypothesis.snoc_accepted accepted
    · rw [List.filter_cons_of_neg accepted]
      exact inductionHypothesis.snoc_rejected (Bool.eq_false_iff.mpr accepted)

namespace Selection

/-- Merging is associative. -/
theorem merge_assoc (first second third : Selection) :
    (first.merge second).merge third = first.merge (second.merge third) := by
  unfold merge
  rw [Nat.add_assoc, foldl_addNew_foldl_addNew]

/-- A link is resolved if the URL of the page is known, and taken as it is otherwise. -/
theorem subjectOf_eq (base : Option String) : subjectOf base = fun link =>
    base.elim link fun page => String.ofList (Link.resolve page.toList link.toList) := by
  cases base with
  | none => rfl
  | some page => rfl

variable (filter : Filter) (base : Option String)

/-- The links that are selected from a page are put into a list one after the other. -/
theorem accepted_ofLinks (links : List String) :
    (ofLinks filter base links).accepted =
      ((links.map (subjectOf base)).filter filter.accepts).foldl addNew [] :=
  Collected.accepted_foldl_collect Collected.isConsistent_empty _

/-- The selection from two pages is the selection from their links one after the other. -/
theorem merge_ofLinks (links more : List String) :
    (ofLinks filter base links).merge (ofLinks filter base more) =
      ofLinks filter base (links ++ more) := by
  have examined : links.length + more.length = (links ++ more).length := List.length_append.symm
  have accepted :
      (ofLinks filter base more).accepted.foldl addNew (ofLinks filter base links).accepted =
        (ofLinks filter base (links ++ more)).accepted := by
    rw [accepted_ofLinks, accepted_ofLinks, accepted_ofLinks, foldl_addNew_foldl_addNew,
      List.map_append, List.filter_append, List.foldl_append, List.foldl_nil]
  exact congrArg₂ Selection.mk examined accepted

/-- Selections of pages are added to the selection from links before them. The induction is on the
pages. -/
theorem foldl_merge_ofLinks (links : List String) (pages : List (List String)) :
    (pages.map (ofLinks filter base)).foldl merge (ofLinks filter base links) =
      ofLinks filter base (links ++ pages.flatten) := by
  induction pages generalizing links with
  | nil => rw [List.flatten_nil, List.append_nil]; rfl
  | cons page pages inductionHypothesis =>
    rw [List.map_cons, List.foldl_cons, merge_ofLinks, inductionHypothesis, List.flatten_cons,
      List.append_assoc]

/-- Selecting from the links of pages one page at a time is selecting from all of them at once. The
selections of the pages are merged in order, beginning with the selection from no pages. The links of
the result are those that the filter accepts once they are resolved against the URL of the page, if
this is known, without repetitions and in the order in which they first occur. Merging is associative
for all selections, also for selections that repeat links. -/
theorem merge_selects_at_once :
    (∀ pages : List (List String),
      let whole := ofLinks filter base pages.flatten
      let subjects := pages.flatten.map fun link =>
        base.elim link fun page => String.ofList (Link.resolve page.toList link.toList)
      (pages.map (ofLinks filter base)).foldl merge empty = whole ∧
        Selects filter.accepts subjects whole.accepted) ∧
    ∀ first second third : Selection,
      (first.merge second).merge third = first.merge (second.merge third) := by
  refine ⟨fun pages => ⟨?_, ?_⟩, merge_assoc⟩
  · exact foldl_merge_ofLinks filter base [] pages
  · rw [accepted_ofLinks, subjectOf_eq]
    exact selects_foldl_addNew filter.accepts _

end Selection

end LinkSieve.Harvest
