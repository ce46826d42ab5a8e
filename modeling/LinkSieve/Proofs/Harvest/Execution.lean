import LinkSieve.Proofs.Harvest.Run
/-!
# A run carries out its plan

A run is its plan, carried out assignment by assignment, in whatever way fetches take effect. What is
added to the report for an assignment does not depend on what the report says before, so the counts
of all pages may just as well be entered first.
-/

namespace LinkSieve.Harvest

open LinkSieve.Retrieval

/-- A change of a report that has nothing to do with the entries that are added to it. -/
structure Report.IsFrame (change : Report → Report) : Prop where
  addDownload : ∀ report download,
    change (report.addDownload download) = (change report).addDownload download
  addFailure : ∀ report failure,
    change (report.addFailure failure) = (change report).addFailure failure

namespace Report.IsFrame

/-- Adding to an earlier report. -/
theorem merge (report : Report) : IsFrame report.merge where
  addDownload other download := by
    simp [Report.merge, Report.addDownload]
  addFailure other failure := by
    simp [Report.merge, Report.addFailure]

/-- One change after another. -/
theorem comp {first second : Report → Report} (left : IsFrame first) (right : IsFrame second) :
    IsFrame (second ∘ first) where
  addDownload report download := by
    rw [Function.comp_apply, left.addDownload, right.addDownload, Function.comp_apply]
  addFailure report failure := by
    rw [Function.comp_apply, left.addFailure, right.addFailure, Function.comp_apply]

end Report.IsFrame

/-- The report on a page before anything is fetched: how many links were examined and accepted. -/
def Page.counts (page : Page) : Report :=
  ⟨page.links.length, page.accepted.length, [], []⟩

/-- Entering the counts of a page. -/
theorem Page.isFrame_merge_counts (page : Page) : Report.IsFrame (·.merge page.counts) where
  addDownload report download := by
    simp [Report.merge, Report.addDownload, counts]
  addFailure report failure := by
    simp [Report.merge, Report.addFailure, counts]

/-- The counts of pages, entered into a report. -/
def enterCounts (pages : List Page) (report : Report) : Report :=
  pages.foldl (fun report page => report.merge page.counts) report

/-- Entering the counts of pages. -/
theorem isFrame_enterCounts (pages : List Page) : Report.IsFrame (enterCounts pages) := by
  induction pages with
  | nil => exact ⟨fun _ _ => rfl, fun _ _ => rfl⟩
  | cons page pages inductionHypothesis =>
    exact page.isFrame_merge_counts.comp inductionHypothesis

namespace Harvester

section Execution

variable {m : Type → Type} [Monad m]

/-- Carries out an assignment and enters what became of it. -/
def carryOut (harvester : Harvester m) (report : Report) (assignment : Assignment) : m Report :=
  match assignment.fileName with
  | none => return report.addFailure ⟨assignment.url, "link has no file name"⟩
  | some fileName => do
    match ← harvester.retriever.retrieve harvester.policy assignment.url
        (joinPath harvester.directory fileName) with
    | .ok retrieved =>
      return report.addDownload
        ⟨assignment.url, fileName, retrieved.bytes, retrieved.alreadyPresent⟩
    | .error error => return report.addFailure ⟨assignment.url, error.message⟩

variable [LawfulMonad m] (harvester : Harvester m)

/-- A link that was not dealt with before is assigned a file, and the assignment is carried out. -/
theorem harvestLink_eq_carryOut (progress : Progress) (report : Report) (url : String) :
    harvester.harvestLink (progress, report) url =
      if url ∈ progress.handled then pure (progress, report)
      else (progress.advance (progress.assignment url), ·) <$>
        harvester.carryOut report (progress.assignment url) := by
  unfold harvestLink carryOut
  dsimp only
  by_cases handled : url ∈ progress.handled
  · rw [if_pos handled, if_pos handled]
  · rw [if_neg handled, if_neg handled]
    cases named : Link.fileName? url.toList with
    | none => simp [Progress.assignment, Progress.advance, named]
    | some name =>
      simp only [Progress.assignment, Progress.advance, named, Option.map_some, Option.toList_some,
        List.singleton_append, map_bind]
      congr 1
      funext retrieved
      cases retrieved with
      | error error => rw [map_pure]
      | ok retrieved => rw [map_pure]

/-- Accepted links are handled by carrying out the plan for them. -/
theorem foldlM_harvestLink (urls : List String) (progress : Progress) (report : Report) :
    urls.foldlM harvester.harvestLink (progress, report) =
      (progress.after urls, ·) <$> (progress.plan urls).foldlM harvester.carryOut report := by
  induction urls generalizing progress report with
  | nil => exact (map_pure _ _).symm
  | cons url urls inductionHypothesis =>
    rw [List.foldlM_cons, harvestLink_eq_carryOut, Progress.plan, Progress.after_cons]
    split
    next => rw [pure_bind, inductionHypothesis]
    next =>
      rw [bind_map_left, List.foldlM_cons, map_bind]
      simp only [inductionHypothesis]

/-- What is entered for an assignment does not depend on what the report says before. -/
theorem carryOut_frame {change : Report → Report} (frame : Report.IsFrame change) (report : Report)
    (assignment : Assignment) :
    harvester.carryOut (change report) assignment =
      change <$> harvester.carryOut report assignment := by
  unfold carryOut
  cases assignment.fileName with
  | none => rw [map_pure, frame.addFailure]
  | some fileName =>
    dsimp only
    rw [map_bind]
    congr 1
    funext retrieved
    cases retrieved with
    | error error => rw [map_pure, frame.addFailure]
    | ok retrieved => rw [map_pure, frame.addDownload]

/-- The same holds of all assignments of a plan. -/
theorem foldlM_carryOut_frame {change : Report → Report} (frame : Report.IsFrame change)
    (assignments : List Assignment) (report : Report) :
    assignments.foldlM harvester.carryOut (change report) =
      change <$> assignments.foldlM harvester.carryOut report := by
  induction assignments generalizing report with
  | nil => exact (map_pure _ _).symm
  | cons assignment assignments inductionHypothesis =>
    rw [List.foldlM_cons, List.foldlM_cons, carryOut_frame harvester frame, bind_map_left, map_bind]
    simp only [inductionHypothesis]

/-- A page is harvested by carrying out the plan for its accepted links. -/
theorem harvest_eq_carryOut (progress : Progress) (page : Page) :
    harvester.harvest progress page.filter page.base page.links =
      (progress.after page.accepted, ·) <$>
        (progress.plan page.accepted).foldlM harvester.carryOut page.counts :=
  harvester.foldlM_harvestLink page.accepted progress page.counts

/-- Pages are harvested by carrying out the plan for the accepted links of all of them in a row. The
induction is on the pages: the counts of the later ones may be entered before the first one is
harvested. -/
theorem foldlM_harvestPage (pages : List Page) (progress : Progress) (report : Report) :
    pages.foldlM harvester.harvestPage (progress, report) =
      (progress.after (pages.flatMap Page.accepted), ·) <$>
        (progress.plan (pages.flatMap Page.accepted)).foldlM harvester.carryOut
          (enterCounts pages report) := by
  induction pages generalizing progress report with
  | nil => exact (map_pure _ _).symm
  | cons page pages inductionHypothesis =>
    have first : harvester.harvestPage (progress, report) page =
        (progress.after page.accepted, ·) <$>
          (progress.plan page.accepted).foldlM harvester.carryOut (report.merge page.counts) := by
      rw [harvestPage, harvest_eq_carryOut, bind_map_left,
        foldlM_carryOut_frame harvester (.merge report), Functor.map_map, bind_pure_comp]
    have counted := foldlM_carryOut_frame harvester (isFrame_enterCounts pages)
      (progress.plan page.accepted) (report.merge page.counts)
    have entered : enterCounts (page :: pages) report =
        enterCounts pages (report.merge page.counts) := rfl
    rw [List.foldlM_cons, first, bind_map_left, List.flatMap_cons, Progress.plan_append,
      Progress.after_append, List.foldlM_append, entered, counted, bind_map_left, map_bind]
    simp only [inductionHypothesis]

end Execution

end Harvester

end LinkSieve.Harvest
