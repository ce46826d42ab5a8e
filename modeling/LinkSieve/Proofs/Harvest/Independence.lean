import Mathlib.Data.List.Destutter
import LinkSieve.Proofs.Harvest.Execution
/-!
# What does not depend on the answers to fetches

File names are claimed before anything is fetched, and no URL is dealt with twice, whatever became of
it. So the pages of a run settle what it attempts and where it saves it: the answers to its fetches
decide how often a URL is fetched, and what is reported about it, but no more. Two runs over the same
pages into the same directory agree in all of this, even if they have nothing else in common.
-/

namespace LinkSieve.Retrieval

/-- The URL and the file of a fetch. -/
def Exchange.target? : Exchange → Option (String × String)
  | .fetched url destination _ => some (url, destination)
  | .paused _ => none

/-- What the calls of a record attempt: which URLs into which files, with repetitions that follow
each other taken together. -/
def attempts (log : List Exchange) : List (String × String) :=
  (log.filterMap Exchange.target?).destutter (· ≠ ·)

/-- The fetches of a visit all have the same target. -/
theorem Visit.targets_exchanges (policy : Policy) (url destination : String) (visit : Visit) :
    (visit.exchanges policy url destination).filterMap Exchange.target? =
      List.replicate visit.fetches (url, destination) := by
  obtain ⟨hints, last⟩ := visit
  induction hints with
  | nil => rfl
  | cons hint hints inductionHypothesis =>
    rw [exchanges] at inductionHypothesis
    rw [exchanges, List.flatMap_cons, List.append_assoc, List.filterMap_append, inductionHypothesis]
    rfl

end LinkSieve.Retrieval

namespace LinkSieve.Harvest

open LinkSieve.Retrieval

section Repetitions

variable {α ι : Type} [DecidableEq α]

/-- Repetitions of what went before are taken together with it. -/
theorem destutter_replicate_append (item : α) (count : Nat) (items : List α) :
    (List.replicate (count + 1) item ++ items).destutter (· ≠ ·) =
      (item :: items).destutter (· ≠ ·) := by
  induction count with
  | zero => rfl
  | succ count inductionHypothesis =>
    rw [← inductionHypothesis, List.replicate_succ, List.replicate_succ, List.cons_append,
      List.cons_append, List.destutter_cons', List.destutter_cons', List.destutter'_cons_neg]
    exact fun different => different rfl

/-- Repetitions of distinct items are all that is dropped. -/
theorem destutter_flatMap_replicate {key : ι → α} (count : ι → Nat) {items : List ι}
    (distinct : (items.map key).Nodup) :
    (items.flatMap fun item => List.replicate (count item + 1) (key item)).destutter (· ≠ ·) =
      items.map key := by
  induction items with
  | nil => rfl
  | cons item items inductionHypothesis =>
    obtain ⟨absent, others⟩ := List.nodup_cons.mp distinct
    have rest := inductionHypothesis others
    rw [List.flatMap_cons, destutter_replicate_append]
    cases items with
    | nil => rfl
    | cons next items =>
      have different : key item ≠ key next := fun same => absent (same ▸ List.mem_cons_self)
      rw [List.flatMap_cons, List.replicate_succ, List.cons_append] at rest ⊢
      rw [List.destutter_cons', List.destutter'_cons_pos (h := different), ← List.destutter_cons',
        rest]
      rfl

end Repetitions

/-- The URL of a block and the file that it is fetched into. -/
def Block.target (block : Block) : String × String := (block.url, block.destination)

/-- What is attempted for an assignment. One without a file name is not attempted. -/
def Assignment.target? (directory : String) (assignment : Assignment) : Option (String × String) :=
  assignment.fileName.map fun fileName => (assignment.url, joinPath directory fileName)

/-- Blocks with targets of their own attempt each of them once. -/
theorem attempts_flatMap_exchanges (policy : Policy) {blocks : List Block}
    (distinct : (blocks.map Block.target).Nodup) :
    attempts (blocks.flatMap (Block.exchanges policy)) = blocks.map Block.target := by
  have targets (block : Block) : (block.exchanges policy).filterMap Exchange.target? =
      List.replicate (block.visit.hints.length + 1) block.target :=
    Visit.targets_exchanges policy block.url block.destination block.visit
  rw [attempts, List.filterMap_flatMap, funext targets]
  exact destutter_flatMap_replicate (fun block => block.visit.hints.length) distinct

namespace Account

variable {m : Type → Type} {harvester : Harvester m} {urls : List String}
  {after : Progress × Report} {log : List Exchange} {handlings : List Handling}

/-- The targets of the blocks are those of the plan. -/
theorem targets_blocks {before : Progress × Report}
    (account : Account harvester urls before after log handlings) :
    (handlings.filterMap (Handling.block? harvester.directory)).map Block.target =
      (before.1.plan urls).filterMap (Assignment.target? harvester.directory) := by
  rw [← account.planned, List.map_filterMap, List.filterMap_map]
  congr 1
  funext handling
  rw [Handling.block?, Function.comp_apply, Assignment.target?, Handling.assignment,
    Option.map_map, Option.map_map]
  rfl

/-- What a run attempts is what is planned. -/
theorem attempts_log (account : Account harvester urls (.start, .empty) after log handlings) :
    attempts log =
      (Progress.start.plan urls).filterMap (Assignment.target? harvester.directory) := by
  have distinct :
      ((handlings.filterMap (Handling.block? harvester.directory)).map Block.target).Nodup := by
    refine .of_map Prod.fst ?_
    rw [List.map_map, show Prod.fst ∘ Block.target = Block.url from rfl, Handling.urls_blocks]
    exact account.nodup_urls.sublist (List.filter_sublist.map _)
  rw [account.log, Handling.flatMap_exchanges, attempts_flatMap_exchanges _ distinct,
    account.targets_blocks]

end Account

/-- The reason that is reported for a URL without a file name. -/
def namelessReason : String := "link has no file name"

/-- What a report says that the answers to fetches have no part in. -/
structure Outline where
  examined : Nat
  accepted : Nat
  /-- The URLs that were given up since they have no file name. -/
  nameless : List String
  deriving Repr, DecidableEq

/-- An assignment without a file name is given up. -/
def Outline.enter (outline : Outline) (assignment : Assignment) : Outline :=
  match assignment.fileName with
  | none => { outline with nameless := outline.nameless ++ [assignment.url] }
  | some _ => outline

/-- The outline of a report. -/
def Report.outline (report : Report) : Outline where
  examined := report.examined
  accepted := report.accepted
  nameless := (report.failed.filter (·.reason = namelessReason)).map (·.url)

/-- The outlines of the reports on pages. -/
def Progress.outlines (progress : Progress) : List Page → List Outline
  | [] => []
  | page :: pages =>
    (progress.plan page.accepted).foldl Outline.enter page.counts.outline ::
      (progress.after page.accepted).outlines pages

/-- No fetch is given up for the reason that is reported for a URL without a file name. -/
theorem message_ne_namelessReason (error : RetrievalError) : error.message ≠ namelessReason := by
  intro same
  have begins : error.message.toList.head? = some 'l' := by
    rw [same]
    rfl
  unfold RetrievalError.message at begins
  split at begins
  next =>
    simp only [String.toList_append, List.append_assoc] at begins
    exact absurd (Option.some.inj begins) (by decide)
  next =>
    simp only [String.toList_append, List.append_assoc] at begins
    exact absurd (Option.some.inj begins) (by decide)

/-- What is saved does not show in the outline. -/
theorem outline_addDownload (report : Report) (download : Download) :
    (report.addDownload download).outline = report.outline :=
  rfl

/-- What is given up shows in the outline if it has no file name. -/
theorem outline_addFailure (report : Report) (failure : Failure) :
    (report.addFailure failure).outline =
      if failure.reason = namelessReason then
        { report.outline with nameless := report.outline.nameless ++ [failure.url] }
      else report.outline := by
  unfold Report.outline Report.addFailure
  split <;> simp_all

/-- In merged reports, the URLs without a file name are those of the reports in a row. -/
theorem nameless_foldl_merge (reports : List Report) (report : Report) :
    (reports.foldl Report.merge report).outline.nameless =
      report.outline.nameless ++ reports.flatMap (·.outline.nameless) := by
  induction reports generalizing report with
  | nil => exact (List.append_nil _).symm
  | cons next reports inductionHypothesis =>
    have merged : (report.merge next).outline.nameless =
        report.outline.nameless ++ next.outline.nameless := by
      simp [Report.merge, Report.outline]
    rw [List.foldl_cons, inductionHypothesis, merged, List.append_assoc, List.flatMap_cons]

namespace Harvester

section Pages

variable {m : Type → Type} [Monad m]

/-- Harvests pages in one run, with a report on each of them. -/
def harvestEach (harvester : Harvester m) (progress : Progress) :
    List Page → m (Progress × List Report)
  | [] => return (progress, [])
  | page :: pages => do
    let (progress, report) ← harvester.harvest progress page.filter page.base page.links
    let (progress, reports) ← harvester.harvestEach progress pages
    return (progress, report :: reports)

/-- Harvesting pages is harvesting each of them and merging the reports. -/
theorem foldlM_harvestPage_eq_harvestEach [LawfulMonad m] (harvester : Harvester m)
    (pages : List Page) (progress : Progress) (report : Report) :
    pages.foldlM harvester.harvestPage (progress, report) =
      (fun outcome => (outcome.1, outcome.2.foldl Report.merge report)) <$>
        harvester.harvestEach progress pages := by
  induction pages generalizing progress report with
  | nil =>
    rw [harvestEach, map_pure]
    rfl
  | cons page pages inductionHypothesis =>
    rw [List.foldlM_cons, harvestPage, bind_assoc, harvestEach, map_bind]
    congr 1
    funext outcome
    obtain ⟨between, first⟩ := outcome
    rw [pure_bind, inductionHypothesis, map_bind]
    simp only [map_pure, List.foldl_cons, bind_pure_comp]

end Pages

section Outcomes

variable {σ : Type} (harvester : Harvester (StateM σ))

/-- The reports of a run, one on each page. -/
def reports (pages : List Page) (state : σ) : List Report :=
  (harvester.harvestEach .start pages state).1.2

/-- The merged report has the URLs without a file name in the order of the pages. -/
theorem nameless_report (pages : List Page) (state : σ) :
    (harvester.report pages state).outline.nameless =
      (harvester.reports pages state).flatMap (·.outline.nameless) := by
  have merged := congrFun (harvester.foldlM_harvestPage_eq_harvestEach pages .start .empty) state
  have same : harvester.report pages state =
      (harvester.reports pages state).foldl Report.merge .empty :=
    congrArg (fun outcome => outcome.1.2) merged
  rw [same, nameless_foldl_merge]
  rfl

/-- An assignment is entered into the outline as it is planned, whatever its fetches are answered
with. -/
theorem outline_carryOut (report : Report) (assignment : Assignment) (state : σ) :
    (harvester.carryOut report assignment state).1.outline =
      report.outline.enter assignment := by
  unfold carryOut Outline.enter
  cases assignment.fileName with
  | none => exact (outline_addFailure _ _).trans (if_pos rfl)
  | some fileName =>
    rcases retrieval : harvester.retriever.retrieve harvester.policy assignment.url
      (joinPath harvester.directory fileName) state with ⟨answer, after⟩
    simp only [bind, StateT.bind, retrieval]
    cases answer with
    | ok retrieved => exact outline_addDownload _ _
    | error error =>
      exact (outline_addFailure _ _).trans (if_neg (message_ne_namelessReason error))

/-- The assignments of a plan are entered one after the other. -/
theorem outline_foldlM_carryOut (assignments : List Assignment) (report : Report) (state : σ) :
    (assignments.foldlM harvester.carryOut report state).1.outline =
      assignments.foldl Outline.enter report.outline := by
  induction assignments generalizing report state with
  | nil => rfl
  | cons assignment assignments inductionHypothesis =>
    let carried := harvester.carryOut report assignment state
    have run : (assignment :: assignments).foldlM harvester.carryOut report state =
        assignments.foldlM harvester.carryOut carried.1 carried.2 := rfl
    rw [run, inductionHypothesis, outline_carryOut, List.foldl_cons]

/-- The outlines of the reports follow from the pages. -/
theorem outlines_harvestEach (pages : List Page) (progress : Progress) (state : σ) :
    (harvester.harvestEach progress pages state).1.2.map Report.outline =
      progress.outlines pages := by
  induction pages generalizing progress state with
  | nil => rfl
  | cons page pages inductionHypothesis =>
    let carried := (progress.plan page.accepted).foldlM harvester.carryOut page.counts state
    have harvested : harvester.harvest progress page.filter page.base page.links state =
        ((progress.after page.accepted, carried.1), carried.2) :=
      congrFun (harvester.harvest_eq_carryOut progress page) state
    have run : (harvester.harvestEach progress (page :: pages) state).1.2 =
        let first := harvester.harvest progress page.filter page.base page.links state
        first.1.2 :: (harvester.harvestEach first.1.1 pages first.2).1.2 := rfl
    rw [run, harvested, List.map_cons, inductionHypothesis, outline_foldlM_carryOut,
      Progress.outlines]

end Outcomes

/-- What is attempted does not depend on the answers to fetches, nor does where it is saved. Two runs
over the same pages into the same directory have the same numbers of examined and of accepted links
on each page, and give up the same URLs of it because they have no file name. They attempt the same
URLs in the same order, each into the same file. The retrievers may be any, with states of their own,
and so may the policies. -/
theorem run_independent_of_answers {σ τ : Type} (retriever : Retriever (StateM σ))
    (other : Retriever (StateM τ)) (policy otherPolicy : Policy) (directory : String)
    (pages : List Page) (state : σ) (otherState : τ) :
    let first : Harvester (StateM σ) := ⟨retriever, policy, directory⟩
    let second : Harvester (StateM τ) := ⟨other, otherPolicy, directory⟩
    (first.reports pages state).map Report.outline =
        (second.reports pages otherState).map Report.outline ∧
      (first.report pages state).outline.nameless =
        (second.report pages otherState).outline.nameless ∧
      attempts (first.log pages state) = attempts (second.log pages otherState) := by
  intro first second
  have outlines : (first.reports pages state).map Report.outline =
      (second.reports pages otherState).map Report.outline :=
    (first.outlines_harvestEach pages .start state).trans
      (second.outlines_harvestEach pages .start otherState).symm
  obtain ⟨handlings, account⟩ := first.exists_account pages state
  obtain ⟨otherHandlings, otherAccount⟩ := second.exists_account pages otherState
  refine ⟨outlines, ?_, ?_⟩
  · have together := congrArg (List.flatMap Outline.nameless) outlines
    rw [List.flatMap_map, List.flatMap_map] at together
    rw [nameless_report, nameless_report]
    exact together
  · exact account.attempts_log.trans otherAccount.attempts_log.symm

end Harvester

end LinkSieve.Harvest
