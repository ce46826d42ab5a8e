import LinkSieve.Proofs.Command.Console
import LinkSieve.Proofs.Harvest.Run
/-!
# Harvests as commands

A command reads each page when its turn comes, and harvests it at once. Reading changes nothing, so the
command does to its files what a run over all the pages does, and the report that it shows is the report
of that run. Its status tells whether this report has anything that was given up.
-/

namespace LinkSieve

open Files Harvest

/-- Finding the absolute path of a file changes nothing. -/
def Files.System.ResolvesOnly {σ : Type} (system : System (StateM σ)) : Prop :=
  ∀ path, Keeps id (system.resolve path)

namespace Command.Harvest

section Page

variable {m : Type → Type} [Monad m]

/-- A page as it is read: its links, with the filter and the base that they are selected by. -/
def takePage (machine : Machine m) (filter : Filter) (base : Option String) (path : String) :
    ExceptT Failure m Page := do
  let html ← machine.readPage path
  let base ← pageBase machine base path
  return ⟨filter, some base, pageLinks html⟩

/-- A page is harvested as soon as it is read. -/
theorem addPage_eq_harvestPage [LawfulMonad m] (machine : Machine m) (harvester : Harvester m)
    (filter : Filter) (base : Option String) (state : Progress × Report) (path : String) :
    addPage machine harvester filter base state path = (do
      let page ← takePage machine filter base path
      ExceptT.lift (harvester.harvestPage state page)) := by
  simp only [addPage, takePage, bind_assoc, pure_bind]
  refine bind_congr fun html => bind_congr fun base => ?_
  apply ExceptT.ext
  unfold Harvester.harvestPage
  simp only [ExceptT.run_lift, bind_pure_comp, ExceptT.run_map, Functor.map_map]
  rfl

end Page

section Run

variable {σ : Type} {machine : Machine (StateM σ)} {filter : Filter} {base : Option String}

/-- Reading a page changes nothing. -/
theorem keeps_takePage (readsOnly : machine.files.ReadsOnly)
    (resolvesOnly : machine.files.ResolvesOnly) (path : String) :
    Keeps id (takePage machine filter base path).run := by
  refine (keeps_perform _ (readsOnly.readText path)).run_bind fun html => ?_
  refine Keeps.run_bind ?_ fun base => .pure _
  cases base with
  | some base => exact .pure _
  | none => exact (keeps_perform _ (resolvesOnly path)).run_bind fun _ => .pure _

/-- A page is what a command reads at a path, at some time. -/
def Takes (machine : Machine (StateM σ)) (filter : Filter) (base : Option String) (path : String)
    (page : Page) : Prop :=
  ∃ state, ((takePage machine filter base path).run state).1 = .ok page

/-- Pages that are read in between are harvested as in a run over all of them. The induction is on the
paths. -/
theorem exists_harvestPages (readsOnly : machine.files.ReadsOnly)
    (resolvesOnly : machine.files.ResolvesOnly) {harvester : Harvester (StateM σ)}
    {paths : List String} {first last : Progress × Report} {before after : σ}
    (succeeds : (paths.foldlM (addPage machine harvester filter base) first).run before =
      (.ok last, after)) :
    ∃ pages, List.Forall₂ (Takes machine filter base) paths pages ∧
      pages.foldlM harvester.harvestPage first before = (last, after) := by
  induction paths generalizing first before with
  | nil =>
    obtain ⟨same, rfl⟩ := Prod.mk.inj succeeds
    obtain rfl := Except.ok.inj same
    exact ⟨[], .nil, rfl⟩
  | cons path paths inductionHypothesis =>
    rw [List.foldlM_cons] at succeeds
    obtain ⟨next, between, step, others⟩ := exists_of_run_bind_eq_ok succeeds
    rw [addPage_eq_harvestPage] at step
    obtain ⟨page, read, taken, harvested⟩ := exists_of_run_bind_eq_ok step
    obtain rfl : read = before :=
      (congrArg Prod.snd taken).symm.trans (keeps_takePage readsOnly resolvesOnly path before)
    have harvests : harvester.harvestPage first page read = (next, between) := by
      rw [ExceptT.run_lift] at harvested
      obtain ⟨same, rfl⟩ := Prod.mk.inj harvested
      exact Prod.ext (Except.ok.inj same) rfl
    obtain ⟨pages, takes, run⟩ := inductionHypothesis others
    refine ⟨page :: pages, .cons ⟨read, congrArg Prod.fst taken⟩ takes, ?_⟩
    rw [List.foldlM_cons, bind_apply_of_eq harvests]
    exact run

/-- The exit status tells whether anything is in a list. -/
theorem code_ofBool_isEmpty {α : Type} (items : List α) :
    (Status.ofBool items.isEmpty).code = 0 ↔ items = [] := by
  cases items <;> simp [Status.ofBool, Status.code]

/-- A command that gets to its end has shown the report of a run over the pages that it has read, and
its exit status tells whether this report has anything that was given up. -/
theorem exists_report_of_run {host : Host (StateM σ)} (readsOnly : host.files.ReadsOnly)
    (resolvesOnly : host.files.ResolvesOnly) {invocation : Invocation} {matching : Matching}
    {rules : RetrievalRules} {paths : List String} {expression : String} {directory : String}
    {wait : Option Nat} {before after : σ} {status : Status}
    (succeeds : (run host invocation matching rules paths expression base directory wait).run
      before = (.ok status, after)) :
    ∃ filter pages begun, matching.filter expression = .ok filter ∧
      List.Forall₂ (Takes host.toMachine filter base) paths pages ∧
      let harvester := harvester host.toMachine rules directory wait
      (host.emit invocation.output
          (results invocation.format (harvester.report pages begun))).run
        (harvester.harvestPages pages begun).2 = (.ok (), after) ∧
      (status.code = 0 ↔ (harvester.report pages begun).failed = []) := by
  obtain ⟨filter, ready, built, succeeds⟩ := exists_of_run_bind_eq_ok succeeds
  obtain ⟨⟨⟩, begun, -, succeeds⟩ := exists_of_run_bind_eq_ok succeeds
  obtain ⟨⟨progress, report⟩, ended, harvested, succeeds⟩ := exists_of_run_bind_eq_ok succeeds
  obtain ⟨⟨⟩, _, emitted, finished⟩ := exists_of_run_bind_eq_ok succeeds
  obtain ⟨pages, takes, runs⟩ := exists_harvestPages readsOnly resolvesOnly harvested
  obtain ⟨same, rfl⟩ := Prod.mk.inj finished
  obtain rfl := Except.ok.inj same
  refine ⟨filter, pages, begun, matching.filter_of_run_build built, takes, ?_⟩
  intro harvester
  have ran : harvester.harvestPages pages begun = ((progress, report), ended) := runs
  rw [Harvester.report, ran]
  exact ⟨emitted, code_ofBool_isEmpty report.failed⟩

end Run

end Command.Harvest

end LinkSieve

namespace LinkSieve.Harvest

open LinkSieve.Retrieval

namespace Harvester

/-- A run handles every accepted URL exactly once, and no other one. What was saved and what was
given up is each in the order of first acceptance. The calls form blocks, one for each accepted
URL that has a file name, in the same order; a block has as many fetches as the policy allows or
fewer, all of them of one URL into one file, with one pause between two of them. Nothing was given
up exactly if a fetch of every accepted URL was answered with the resource.

The command that harvests pages is such a run over the pages that it reads, on every host on which
reading changes nothing. If it gets to its end, it has shown the report of the run, and its exit status
is zero exactly if nothing was given up in it. -/
theorem harvestPages_handles_once {σ : Type} :
    (∀ (harvester : Harvester (StateM σ)) (pages : List Page) (state : σ),
      let urls := (pages.flatMap Page.accepted).eraseDups
      let downloaded := (harvester.report pages state).downloaded.map (·.url)
      let failed := (harvester.report pages state).failed.map (·.url)
      (downloaded ++ failed).Nodup ∧
        (∀ url, url ∈ downloaded ++ failed ↔ ∃ page ∈ pages, url ∈ page.accepted) ∧
        downloaded.Sublist urls ∧ failed.Sublist urls ∧
        (∃ blocks : List Block,
          harvester.log pages state = blocks.flatMap (Block.exchanges harvester.policy) ∧
          blocks.map (·.url) = urls.filter (fun url => (Link.fileName? url.toList).isSome) ∧
          ∀ block ∈ blocks, 1 ≤ block.visit.fetches ∧
            block.visit.fetches ≤ max 1 harvester.policy.maxAttempts) ∧
        ((harvester.report pages state).failed = [] ↔
          ∀ url ∈ urls, ∃ destination answer, answer.delivers = true ∧
            .fetched url destination answer ∈ harvester.log pages state)) ∧
    ∀ (host : Command.Host (StateM σ)) (invocation : Command.Invocation)
      (matching : Command.Matching) (rules : RetrievalRules) (paths : List String)
      (expression : String) (base : Option String) (directory : String) (wait : Option Nat)
      (before after : σ) (status : Command.Status),
      host.files.ReadsOnly → host.files.ResolvesOnly →
      (Command.Harvest.run host invocation matching rules paths expression base directory wait).run
        before = (.ok status, after) →
      ∃ filter pages begun, matching.filter expression = .ok filter ∧
        List.Forall₂ (Command.Harvest.Takes host.toMachine filter base) paths pages ∧
        let harvester := Command.Harvest.harvester host.toMachine rules directory wait
        (host.emit invocation.output
            (Command.Harvest.results invocation.format (harvester.report pages begun))).run
          (harvester.harvestPages pages begun).2 = (.ok (), after) ∧
        (status.code = 0 ↔ (harvester.report pages begun).failed = []) := by
  constructor
  · intro harvester pages state urls downloaded failed
    obtain ⟨handlings, account⟩ := harvester.exists_account pages state
    have handled : handlings.map (·.url) = urls := account.urls_handlings
    have downloads :
        downloaded = (handlings.filter (Handling.delivered harvester.policy)).map (·.url) := by
      rw [← Handling.urls_downloads]
      exact congrArg _ account.downloaded
    have failures :
        failed = (handlings.filter (!Handling.delivered harvester.policy ·)).map (·.url) := by
      rw [← Handling.urls_failures]
      exact congrArg _ account.failed
    have together : (downloaded ++ failed).Perm urls := by
      rw [downloads, failures, ← List.map_append, ← handled]
      exact (List.filter_append_perm _ _).map _
    refine ⟨?_, ?_, ?_, ?_, ?_, ?_⟩
    · rw [together.nodup_iff, ← handled]
      exact account.nodup_urls
    · intro url
      rw [together.mem_iff, List.mem_eraseDups, List.mem_flatMap]
    · rw [downloads, ← handled]
      exact List.filter_sublist.map _
    · rw [failures, ← handled]
      exact List.filter_sublist.map _
    · refine ⟨handlings.filterMap (Handling.block? harvester.directory), ?_, account.urls_blocks, ?_⟩
      · rw [account.log, Handling.flatMap_exchanges]
      · intro block member
        exact ⟨Nat.le_add_left 1 _, account.fetches_le member⟩
    · exact account.failed_eq_nil_iff
  · intro host invocation matching rules paths expression base directory wait before after status
      readsOnly resolvesOnly succeeds
    exact Command.Harvest.exists_report_of_run readsOnly resolvesOnly succeeds

/-- A page with two links, one of which leads nowhere. -/
def deadLink : Files.Tree :=
  ⟨[(["page.html"], .file (Text.Utf8.encode "<a href='a.pdf'><a href='b.pdf'>".toList)),
    (["a.pdf"], .file [1])], []⟩

/-- A machine with this page, whose patterns all match everything. -/
def deadLinkHost : Command.Host (StateM (Files.Tree × Command.Transcript)) :=
  (Command.treeMachine (fun _ _ => .ok fun _ => true) []).transcribed

/-- A harvest of this page gives something up, so its exit status is not zero. -/
theorem harvestPages_handles_once_dead_link :
    let invocation : Command.Invocation :=
      ⟨.check "" false, none, none, [], none, .text, none, .auto, false⟩
    let matching : Command.Matching := ⟨deadLinkHost.engine, .empty, .default⟩
    let run := (Command.Harvest.run deadLinkHost invocation matching .default ["page.html"] "\"a\""
      none "out" none).run (deadLink, .empty)
    deadLinkHost.files.ReadsOnly ∧ deadLinkHost.files.ResolvesOnly ∧
      run.1.toOption = some .notFound ∧
      ∃ filter pages begun,
        List.Forall₂ (Command.Harvest.Takes deadLinkHost.toMachine filter none) ["page.html"] pages ∧
        ((Command.Harvest.harvester deadLinkHost.toMachine .default "out" none).report pages
          begun).failed ≠ [] := by
  intro invocation matching run
  have readsOnly : deadLinkHost.files.ReadsOnly := fun _ _ => rfl
  have resolvesOnly : deadLinkHost.files.ResolvesOnly := fun _ _ => rfl
  have ended : run.1.toOption = some .notFound := by decide +kernel
  refine ⟨readsOnly, resolvesOnly, ended, ?_⟩
  cases result : run.1 with
  | error failure =>
    rw [result] at ended
    cases ended
  | ok status =>
    rw [result] at ended
    obtain rfl := Option.some.inj ended
    obtain ⟨filter, pages, begun, -, takes, -, code⟩ :=
      harvestPages_handles_once.2 deadLinkHost invocation matching .default ["page.html"] "\"a\"" none
        "out" none (deadLink, .empty) run.2 .notFound readsOnly resolvesOnly (Prod.ext result rfl)
    exact ⟨filter, pages, begun, takes, fun nothing => by cases code.mpr nothing⟩

end Harvester

end LinkSieve.Harvest
