import LinkSieve.Proofs.Harvest.Execution
import LinkSieve.Proofs.Harvest.Selection
/-!
# How links are spread over pages

It makes no difference to a run on which page a link stands. Within a page repetitions are dropped
when links are selected, and across pages the run remembers what it has dealt with; both lead to the
same plan. Only the number of accepted links tells the pages apart, since a link that is accepted on
two pages counts twice.
-/

namespace LinkSieve.Harvest

open LinkSieve.Retrieval

/-- The links of a page that the filter accepts, with their repetitions. -/
def Page.matching (page : Page) : List String :=
  (page.links.map (subjectOf page.base)).filter page.filter.accepts

namespace Progress

/-- Repetitions on a page do not change what is planned. -/
theorem plan_accepted (progress : Progress) (page : Page) :
    progress.plan page.accepted = progress.plan page.matching := by
  rw [Page.accepted, Selection.accepted_ofLinks, plan_foldl_addNew]
  rfl

/-- Repetitions on a page do not change what is remembered. -/
theorem after_accepted (progress : Progress) (page : Page) :
    progress.after page.accepted = progress.after page.matching := by
  rw [after, after, plan_accepted]

/-- For pages with one base and one filter, the plan is that for a single page with all their links.
The induction is on the pages. -/
theorem plan_flatMap_accepted (progress : Progress) (filter : Filter) (base : Option String)
    (cuts : List (List String)) :
    progress.plan ((cuts.map (Page.mk filter base)).flatMap Page.accepted) =
      progress.plan (Page.mk filter base cuts.flatten).matching := by
  induction cuts generalizing progress with
  | nil => rfl
  | cons links cuts inductionHypothesis =>
    have joined : (Page.mk filter base (links :: cuts).flatten).matching =
        (Page.mk filter base links).matching ++ (Page.mk filter base cuts.flatten).matching := by
      simp [Page.matching]
    rw [List.map_cons, List.flatMap_cons, plan_append, plan_accepted, after_accepted,
      inductionHypothesis, joined, plan_append]

end Progress

/-- Pages with one base and one filter have as many links as a single page with all of them. -/
theorem examined_enterCounts (filter : Filter) (base : Option String) (cuts : List (List String))
    (report : Report) :
    (enterCounts (cuts.map (Page.mk filter base)) report).examined =
      report.examined + cuts.flatten.length := by
  induction cuts generalizing report with
  | nil => rfl
  | cons links cuts inductionHypothesis =>
    have entered : enterCounts ((links :: cuts).map (Page.mk filter base)) report =
        enterCounts (cuts.map (Page.mk filter base))
          (report.merge (Page.mk filter base links).counts) := rfl
    rw [entered, inductionHypothesis, List.flatten_cons, List.length_append, ← Nat.add_assoc]
    rfl

/-- Counts are entered without entries. -/
theorem entries_enterCounts (pages : List Page) (report : Report) :
    (enterCounts pages report).downloaded = report.downloaded ∧
      (enterCounts pages report).failed = report.failed := by
  induction pages generalizing report with
  | nil => exact ⟨rfl, rfl⟩
  | cons page pages inductionHypothesis =>
    obtain ⟨downloaded, failed⟩ := inductionHypothesis (report.merge page.counts)
    exact ⟨downloaded.trans (List.append_nil _), failed.trans (List.append_nil _)⟩

/-- Leaving out the number of accepted links. -/
def Report.withoutAccepted (report : Report) : Report := { report with accepted := 0 }

/-- New entries do not change the number of accepted links. -/
theorem Report.isFrame_withoutAccepted : Report.IsFrame Report.withoutAccepted where
  addDownload _ _ := rfl
  addFailure _ _ := rfl

namespace Harvester

/-- Harvesting pages with one base and one filter is harvesting all their links as one page, whatever
fetches do. The number of accepted links aside, the reports are the same as well. -/
theorem harvestPages_map_eq {m : Type → Type} [Monad m] [LawfulMonad m] (harvester : Harvester m)
    (filter : Filter) (base : Option String) (cuts : List (List String)) :
    (fun state => (state.1, state.2.withoutAccepted)) <$>
        harvester.harvestPages (cuts.map (Page.mk filter base)) =
      (fun state => (state.1, state.2.withoutAccepted)) <$>
        harvester.harvest .start filter base cuts.flatten := by
  let pages := cuts.map (Page.mk filter base)
  let whole : Page := ⟨filter, base, cuts.flatten⟩
  have plan : Progress.start.plan (pages.flatMap Page.accepted) =
      Progress.start.plan whole.accepted := by
    rw [Progress.plan_flatMap_accepted, Progress.plan_accepted]
  have after : Progress.start.after (pages.flatMap Page.accepted) =
      Progress.start.after whole.accepted := by
    rw [Progress.after, Progress.after, plan]
  have counts : (enterCounts pages .empty).withoutAccepted = whole.counts.withoutAccepted := by
    have examined := examined_enterCounts filter base cuts .empty
    obtain ⟨downloaded, failed⟩ := entries_enterCounts pages .empty
    simp only [Report.withoutAccepted, Report.mk.injEq, downloaded, failed, true_and]
    exact ⟨examined.trans (Nat.zero_add _), rfl, rfl⟩
  have carried (report : Report) := harvester.foldlM_carryOut_frame
    Report.isFrame_withoutAccepted (Progress.start.plan whole.accepted) report
  have cut : harvester.harvestPages pages =
      (Progress.start.after whole.accepted, ·) <$>
        (Progress.start.plan whole.accepted).foldlM harvester.carryOut
          (enterCounts pages .empty) := by
    rw [harvestPages, foldlM_harvestPage, plan, after]
  calc (fun state => (state.1, state.2.withoutAccepted)) <$> harvester.harvestPages pages
      = (Progress.start.after whole.accepted, ·) <$>
          (Progress.start.plan whole.accepted).foldlM harvester.carryOut
            (enterCounts pages .empty).withoutAccepted := by
        rw [cut, carried, Functor.map_map, Functor.map_map]
    _ = (Progress.start.after whole.accepted, ·) <$>
          (Progress.start.plan whole.accepted).foldlM harvester.carryOut
            whole.counts.withoutAccepted := by
        rw [counts]
    _ = (fun state => (state.1, state.2.withoutAccepted)) <$>
          harvester.harvest .start filter base cuts.flatten := by
        rw [carried, harvester.harvest_eq_carryOut .start whole, Functor.map_map, Functor.map_map]

/-- It does not matter how links are spread over pages. If a list of links is cut into pages that
share a base and a filter, then a run over the pages makes the same calls, one after the other, as
harvesting the whole list, and these have the same answers and the same effects; and the merged
report has the same number of examined links, and the same entries in the same order. -/
theorem harvestPages_independent_of_cuts {σ : Type} (harvester : Harvester (StateM σ))
    (filter : Filter) (base : Option String) (cuts : List (List String)) (state : σ) :
    let pages := cuts.map (Page.mk filter base)
    let whole := harvester.harvest .start filter base cuts.flatten state
    let recorded := harvester.recording.harvest .start filter base cuts.flatten (state, [])
    harvester.log pages state = recorded.2.2 ∧
      (harvester.harvestPages pages state).2 = whole.2 ∧
      (harvester.report pages state).examined = whole.1.2.examined ∧
      (harvester.report pages state).downloaded = whole.1.2.downloaded ∧
      (harvester.report pages state).failed = whole.1.2.failed := by
  intro pages whole recorded
  have sameRecord := congrFun (harvester.recording.harvestPages_map_eq filter base cuts) (state, [])
  have same := congrFun (harvester.harvestPages_map_eq filter base cuts) state
  refine ⟨?_, ?_, ?_, ?_, ?_⟩
  · exact congrArg (fun outcome => outcome.2.2) sameRecord
  · exact congrArg (fun outcome => outcome.2) same
  · exact congrArg (fun outcome => outcome.1.2.examined) same
  · exact congrArg (fun outcome => outcome.1.2.downloaded) same
  · exact congrArg (fun outcome => outcome.1.2.failed) same

end Harvester

end LinkSieve.Harvest
