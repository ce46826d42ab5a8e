import LinkSieve.Harvest.Harvester
/-!
# The plan of a run

Which URLs a run deals with, and which file name each of them is given, follows from the accepted
links alone. The plan says so before anything is fetched. A URL is in it once, at its first place,
and what is planned for further links continues what was planned before.
-/

namespace LinkSieve.Harvest

/-- A URL that a run deals with, and the file name that it is given if it has one. -/
structure Assignment where
  url : String
  fileName : Option String
  deriving Repr, DecidableEq

namespace Progress

/-- What is planned for a URL that was not dealt with before. -/
def assignment (progress : Progress) (url : String) : Assignment where
  url := url
  fileName := (Link.fileName? url.toList).map fun name =>
    freeName progress.claimed (String.ofList name)

/-- What a run remembers after an assignment. -/
def advance (progress : Progress) (assignment : Assignment) : Progress where
  handled := assignment.url :: progress.handled
  claimed := assignment.fileName.toList ++ progress.claimed

/-- The plan for accepted links. -/
def plan (progress : Progress) : List String → List Assignment
  | [] => []
  | url :: urls =>
    if url ∈ progress.handled then progress.plan urls
    else
      let assignment := progress.assignment url
      assignment :: (progress.advance assignment).plan urls

/-- What a run remembers after accepted links. -/
def after (progress : Progress) (urls : List String) : Progress :=
  (progress.plan urls).foldl advance progress

/-- What is planned for links continues what is planned for the links before them. -/
theorem plan_append (progress : Progress) (first second : List String) :
    progress.plan (first ++ second) =
      progress.plan first ++ (progress.after first).plan second := by
  induction first generalizing progress with
  | nil => rfl
  | cons url urls inductionHypothesis =>
    rw [List.cons_append, after, plan, plan]
    split
    next => exact inductionHypothesis progress
    next => exact congrArg _ (inductionHypothesis _)

/-- A run goes on from where it was after the links before. -/
theorem after_append (progress : Progress) (first second : List String) :
    progress.after (first ++ second) = (progress.after first).after second := by
  rw [after, plan_append, List.foldl_append]
  rfl

/-- A run after one more link at the beginning. -/
theorem after_cons (progress : Progress) (url : String) (urls : List String) :
    progress.after (url :: urls) =
      if url ∈ progress.handled then progress.after urls
      else (progress.advance (progress.assignment url)).after urls := by
  rw [after, plan]
  split <;> rfl

/-- What was dealt with stays dealt with. -/
theorem mem_handled_after {progress : Progress} {url : String} (handled : url ∈ progress.handled)
    (urls : List String) : url ∈ (progress.after urls).handled := by
  induction urls generalizing progress with
  | nil => exact handled
  | cons next urls inductionHypothesis =>
    rw [after_cons]
    split
    next => exact inductionHypothesis handled
    next => exact inductionHypothesis (List.mem_cons_of_mem _ handled)

/-- Links are dealt with after them. -/
theorem mem_handled_after_of_mem {progress : Progress} {urls : List String} {url : String}
    (member : url ∈ urls) : url ∈ (progress.after urls).handled := by
  induction urls generalizing progress with
  | nil => cases member
  | cons next urls inductionHypothesis =>
    rw [after_cons]
    rcases List.mem_cons.mp member with rfl | later
    · split
      next handled => exact mem_handled_after handled urls
      next => exact mem_handled_after List.mem_cons_self urls
    · split
      next => exact inductionHypothesis later
      next => exact inductionHypothesis later

/-- It makes no difference to the plan whether repetitions among links were dropped before. The
induction is on the links, behind those that were kept so far. -/
theorem plan_foldl_addNew (progress : Progress) (urls kept : List String) :
    progress.plan (urls.foldl addNew kept) = progress.plan (kept ++ urls) := by
  induction urls generalizing kept with
  | nil => rw [List.foldl_nil, List.append_nil]
  | cons url urls inductionHypothesis =>
    rw [List.foldl_cons, inductionHypothesis, addNew]
    split
    next again =>
      have handled : url ∈ (progress.after kept).handled := mem_handled_after_of_mem again
      rw [plan_append, plan_append, plan, if_pos handled]
    next => rw [List.append_assoc, List.singleton_append]

/-- The plan has the URLs that were not dealt with before, each at its first place. -/
theorem urls_plan (progress : Progress) (urls : List String) :
    (progress.plan urls).map (·.url) = (urls.filter (· ∉ progress.handled)).eraseDups := by
  induction urls generalizing progress with
  | nil => rfl
  | cons url urls inductionHypothesis =>
    rw [plan]
    split
    next handled => rw [inductionHypothesis, List.filter_cons_of_neg (by simpa using handled)]
    next fresh =>
      have others :
          (fun other => decide (other ∉ (progress.advance (progress.assignment url)).handled)) =
            fun other => !other == url && decide (other ∉ progress.handled) := by
        funext other
        by_cases same : other = url <;> simp [advance, assignment, same]
      rw [List.filter_cons_of_pos (by simpa using fresh), List.eraseDups_cons, List.filter_filter,
        List.map_cons, inductionHypothesis, others]
      rfl

/-- No URL is dealt with that was dealt with before. -/
theorem not_mem_handled_of_mem_plan {progress : Progress} {urls : List String} {url : String}
    (member : url ∈ (progress.plan urls).map (·.url)) : url ∉ progress.handled := by
  rw [urls_plan, List.mem_eraseDups, List.mem_filter] at member
  simpa using member.2

/-- No URL is in the plan twice. -/
theorem nodup_urls_plan (progress : Progress) (urls : List String) :
    ((progress.plan urls).map (·.url)).Nodup := by
  induction urls generalizing progress with
  | nil => exact List.nodup_nil
  | cons url urls inductionHypothesis =>
    rw [plan]
    split
    next => exact inductionHypothesis progress
    next =>
      refine List.nodup_cons.mpr ⟨?_, inductionHypothesis _⟩
      intro again
      exact not_mem_handled_of_mem_plan again List.mem_cons_self

/-- A URL has a place in the directory exactly if it has a file name. -/
theorem isSome_fileName_of_mem_plan {progress : Progress} {urls : List String}
    {assignment : Assignment} (member : assignment ∈ progress.plan urls) :
    assignment.fileName.isSome = (Link.fileName? assignment.url.toList).isSome := by
  induction urls generalizing progress with
  | nil => cases member
  | cons url urls inductionHypothesis =>
    rw [plan] at member
    split at member
    next => exact inductionHypothesis member
    next =>
      rcases List.mem_cons.mp member with rfl | later
      · exact Option.isSome_map
      · exact inductionHypothesis later

end Progress

end LinkSieve.Harvest
