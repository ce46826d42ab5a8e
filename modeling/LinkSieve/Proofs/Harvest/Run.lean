import Mathlib.Data.List.Nodup
import LinkSieve.Proofs.Harvest.Handling
/-!
# Runs over pages

A run harvests pages one after the other and merges the reports. Its account is that of the
accepted links of all pages in a row, so the pages do not show in it. From the account follows
what the run does: it handles each accepted URL once, in the order of first acceptance, with one
block of calls for each URL that has a file name.
-/

namespace LinkSieve.Harvest

open LinkSieve.Retrieval

/-- A page as it is harvested: its links, and the rules by which they are selected. -/
structure Page where
  filter : Filter
  base : Option String
  links : List String

/-- The links of a page that are accepted. -/
def Page.accepted (page : Page) : List String :=
  (Selection.ofLinks page.filter page.base page.links).accepted

namespace Harvester

variable {m : Type → Type} [Monad m]

/-- Harvests a further page and adds its report to what was reported before. -/
def harvestPage (harvester : Harvester m) (state : Progress × Report) (page : Page) :
    m (Progress × Report) := do
  let (progress, report) ← harvester.harvest state.1 page.filter page.base page.links
  return (progress, state.2.merge report)

/-- Harvests pages in one run. -/
def harvestPages (harvester : Harvester m) (pages : List Page) : m (Progress × Report) :=
  pages.foldlM harvester.harvestPage (.start, .empty)

end Harvester

/-- What a page is reported with may be added to any report. -/
theorem Account.merge {m : Type → Type} {harvester : Harvester m} {urls : List String}
    {progress : Progress} {examined accepted : Nat} {after : Progress × Report}
    {log : List Exchange} {handlings : List Handling}
    (account : Account harvester urls (progress, ⟨examined, accepted, [], []⟩) after log handlings)
    (report : Report) :
    Account harvester urls (progress, report) (after.1, report.merge after.2) log handlings where
  planned := account.planned
  visits := account.visits
  progress := account.progress
  downloaded := by rw [Report.merge, account.downloaded, List.nil_append]
  failed := by rw [Report.merge, account.failed, List.nil_append]
  log := account.log

section Recorded

variable {σ : Type} (harvester : Harvester (StateM σ))

/-- A page is accounted for by its accepted links. -/
theorem harvestPage_records (state : Progress × Report) (page : Page) :
    Records (harvester.recording.harvestPage state page) (harvester.harvestPage state page)
      (Accounted harvester page.accepted state) := by
  refine (harvestLinks_records harvester _ _).bind ?_
  rintro after log ⟨handlings, account⟩
  refine .pure ⟨handlings, ?_⟩
  rw [List.append_nil]
  exact account.merge state.2

/-- A run is accounted for by the accepted links of its pages in a row. -/
theorem harvestPages_records (pages : List Page) :
    Records (harvester.recording.harvestPages pages) (harvester.harvestPages pages)
      (Accounted harvester (pages.flatMap Page.accepted) (.start, .empty)) := by
  refine Records.foldlM (fun pages => Accounted harvester (pages.flatMap Page.accepted))
    Accounted.empty ?_ ?_ pages _
  · intro page pages before between after firstLog secondLog first others
    rw [List.flatMap_singleton] at first
    exact first.append others
  · intro state page
    rw [List.flatMap_singleton]
    exact harvestPage_records harvester state page

end Recorded

/-- Calls of a retriever for one URL and one file. -/
structure Block where
  url : String
  destination : String
  visit : Visit
  deriving Repr, DecidableEq

/-- The calls of a block. -/
def Block.exchanges (policy : Policy) (block : Block) : List Exchange :=
  block.visit.exchanges policy block.url block.destination

namespace Handling

/-- The block of a URL that is visited. -/
def block? (directory : String) (handling : Handling) : Option Block :=
  handling.visit.map fun (fileName, visit) => ⟨handling.url, joinPath directory fileName, visit⟩

/-- Whether the resource of the URL is in the output directory now. -/
def delivered (policy : Policy) (handling : Handling) : Bool :=
  (handling.outcome policy).isOk

/-- Entries are about the URLs of the handlings that have one. -/
theorem urls_entries {α : Type} {item? : Handling → Option α} {url : α → String}
    {kept : Handling → Bool}
    (entries : ∀ handling : Handling,
      (item? handling).map url = if kept handling then some handling.url else none)
    (handlings : List Handling) :
    (handlings.filterMap item?).map url = (handlings.filter kept).map (·.url) := by
  induction handlings with
  | nil => rfl
  | cons handling handlings inductionHypothesis =>
    have entry := entries handling
    rw [List.map_filterMap] at inductionHypothesis ⊢
    rw [List.filterMap_cons, entry, inductionHypothesis, List.filter_cons]
    split <;> simp_all

/-- The outcome is about the URL that was handled. -/
theorem url_outcome (policy : Policy) (handling : Handling) :
    (∀ download, handling.outcome policy = .ok download → download.url = handling.url) ∧
      ∀ failure, handling.outcome policy = .error failure → failure.url = handling.url := by
  obtain ⟨url, visit⟩ := handling
  cases visit with
  | none => simp [outcome]
  | some visited =>
    simp only [outcome]
    cases visited.2.result policy url <;> simp

/-- The entries for what was saved are those of the URLs that were delivered. -/
theorem urls_downloads (policy : Policy) (handlings : List Handling) :
    (handlings.filterMap (download? policy)).map (·.url) =
      (handlings.filter (delivered policy)).map (·.url) := by
  refine urls_entries ?_ handlings
  intro handling
  obtain ⟨ofDownload, _⟩ := handling.url_outcome policy
  unfold download? delivered
  cases led : handling.outcome policy with
  | ok download => exact congrArg some (ofDownload download led)
  | error failure => rfl

/-- The entries for what was given up are those of the other URLs. -/
theorem urls_failures (policy : Policy) (handlings : List Handling) :
    (handlings.filterMap (failure? policy)).map (·.url) =
      (handlings.filter (!delivered policy ·)).map (·.url) := by
  refine urls_entries ?_ handlings
  intro handling
  obtain ⟨_, ofFailure⟩ := handling.url_outcome policy
  unfold failure? delivered
  cases led : handling.outcome policy with
  | ok download => rfl
  | error failure => exact congrArg some (ofFailure failure led)

/-- The blocks are those of the URLs that are visited. -/
theorem urls_blocks (directory : String) (handlings : List Handling) :
    (handlings.filterMap (block? directory)).map (·.url) =
      (handlings.filter (·.visit.isSome)).map (·.url) := by
  refine urls_entries ?_ handlings
  intro handling
  unfold block?
  cases handling.visit <;> rfl

/-- The calls are those of the blocks. -/
theorem flatMap_exchanges (policy : Policy) (directory : String) (handlings : List Handling) :
    handlings.flatMap (exchanges policy directory) =
      (handlings.filterMap (block? directory)).flatMap (Block.exchanges policy) := by
  induction handlings with
  | nil => rfl
  | cons handling handlings inductionHypothesis =>
    rw [List.flatMap_cons, inductionHypothesis, List.filterMap_cons, exchanges, block?]
    cases handling.visit with
    | none => rfl
    | some visited => rfl

/-- A fetch among the calls is one of the URL that was handled. -/
theorem url_of_fetched_mem {policy : Policy} {directory url destination : String}
    {answer : FetchOutcome} {handling : Handling}
    (member : .fetched url destination answer ∈ handling.exchanges policy directory) :
    url = handling.url := by
  unfold exchanges at member
  split at member
  next => cases member
  next => exact (Visit.fetched_mem_exchanges.mp member).1

/-- A URL was delivered exactly if a fetch was answered so. Answers before the last one turn the
fetch down. -/
theorem delivered_iff (policy : Policy) (directory : String) (handling : Handling) :
    handling.delivered policy = true ↔ ∃ destination answer, answer.delivers = true ∧
      .fetched handling.url destination answer ∈ handling.exchanges policy directory := by
  obtain ⟨url, visit⟩ := handling
  cases visit with
  | none => simp [delivered, outcome, exchanges, Except.isOk, Except.toBool]
  | some visited =>
    have succeeds : Handling.delivered policy ⟨url, some visited⟩ = visited.2.last.delivers := by
      rw [← visited.2.isOk_result policy url, delivered, outcome]
      simp only
      cases visited.2.result policy url <;> rfl
    simp only [succeeds, exchanges, Visit.fetched_mem_exchanges, true_and]
    constructor
    · intro delivers
      exact ⟨_, _, delivers, rfl, .inl rfl⟩
    · rintro ⟨_, answer, delivers, rfl, rfl | ⟨hint, _, rfl⟩⟩
      · exact delivers
      · cases delivers

end Handling

namespace Account

variable {m : Type → Type} {harvester : Harvester m} {urls : List String}
  {after : Progress × Report} {log : List Exchange} {handlings : List Handling}

/-- A run handles the accepted URLs, each of them once, in the order of first acceptance. -/
theorem urls_handlings
    (account : Account harvester urls (.start, .empty) after log handlings) :
    handlings.map (·.url) = urls.eraseDups := by
  have planned := congrArg (List.map Assignment.url) account.planned
  have nothingHandled : urls.filter (· ∉ Progress.start.handled) = urls :=
    List.filter_eq_self.mpr fun _ _ => rfl
  rw [List.map_map, Progress.urls_plan, nothingHandled] at planned
  exact planned

/-- No URL is handled twice. -/
theorem nodup_urls (account : Account harvester urls (.start, .empty) after log handlings) :
    (handlings.map (·.url)).Nodup := by
  have planned := congrArg (List.map Assignment.url) account.planned
  rw [List.map_map] at planned
  rw [show handlings.map (·.url) = _ from planned]
  exact Progress.nodup_urls_plan _ _

/-- A run visits the URLs that have a file name. -/
theorem urls_blocks (account : Account harvester urls (.start, .empty) after log handlings) :
    (handlings.filterMap (Handling.block? harvester.directory)).map (·.url) =
      urls.eraseDups.filter fun url => (Link.fileName? url.toList).isSome := by
  have visited : ∀ handling ∈ handlings,
      handling.visit.isSome = (Link.fileName? handling.url.toList).isSome := by
    intro handling member
    have planned : handling.assignment ∈ Progress.start.plan urls := by
      rw [← account.planned]
      exact List.mem_map_of_mem member
    exact Option.isSome_map.symm.trans (Progress.isSome_fileName_of_mem_plan planned)
  rw [Handling.urls_blocks, ← account.urls_handlings, List.filter_map]
  exact congrArg _ (List.filter_congr visited)

/-- No block has more fetches than the policy has attempts. -/
theorem fetches_le {before : Progress × Report}
    (account : Account harvester urls before after log handlings)
    {block : Block} (member : block ∈ handlings.filterMap (Handling.block? harvester.directory)) :
    block.visit.fetches ≤ harvester.policy.attempts := by
  obtain ⟨handling, handled, same⟩ := List.mem_filterMap.mp member
  obtain ⟨⟨fileName, visit⟩, visited, rfl⟩ := Option.map_eq_some_iff.mp same
  exact (account.visits handling handled fileName visit visited).bounded

/-- Nothing was given up exactly if a fetch of every accepted URL was answered with the resource. -/
theorem failed_eq_nil_iff
    (account : Account harvester urls (.start, .empty) after log handlings) :
    after.2.failed = [] ↔ ∀ url ∈ urls.eraseDups, ∃ destination answer,
      answer.delivers = true ∧ .fetched url destination answer ∈ log := by
  have failed : after.2.failed = [] ↔
      ∀ handling ∈ handlings, handling.delivered harvester.policy = true := by
    rw [account.failed, Report.empty, List.nil_append, ← List.map_eq_nil_iff,
      Handling.urls_failures, List.map_eq_nil_iff]
    simp
  rw [failed, ← account.urls_handlings, List.forall_mem_map, account.log]
  refine forall_congr' fun handling => forall_congr' fun member => ?_
  rw [handling.delivered_iff harvester.policy harvester.directory]
  constructor
  · rintro ⟨destination, answer, delivers, fetched⟩
    exact ⟨destination, answer, delivers, List.mem_flatMap.mpr ⟨handling, member, fetched⟩⟩
  · rintro ⟨destination, answer, delivers, fetched⟩
    obtain ⟨other, otherMember, fetched⟩ := List.mem_flatMap.mp fetched
    have same : other = handling :=
      List.inj_on_of_nodup_map account.nodup_urls otherMember member
        (Handling.url_of_fetched_mem fetched).symm
    subst same
    exact ⟨destination, answer, delivers, fetched⟩

end Account

namespace Harvester

variable {σ : Type}

/-- The merged report of a run. -/
def report (harvester : Harvester (StateM σ)) (pages : List Page) (state : σ) : Report :=
  (harvester.harvestPages pages state).1.2

/-- The calls of a run. -/
def log (harvester : Harvester (StateM σ)) (pages : List Page) (state : σ) : List Exchange :=
  (harvester.recording.harvestPages pages (state, [])).2.2

/-- Recording changes neither what a run results in nor what it does. -/
theorem recording_harvestPages (harvester : Harvester (StateM σ)) (pages : List Page) (state : σ) :
    harvester.recording.harvestPages pages (state, []) =
      ((harvester.harvestPages pages state).1,
        ((harvester.harvestPages pages state).2, harvester.log pages state)) := by
  obtain ⟨added, runs, _⟩ := harvestPages_records harvester pages state []
  rw [log, runs]

/-- A run has an account. -/
theorem exists_account (harvester : Harvester (StateM σ)) (pages : List Page) (state : σ) :
    ∃ handlings : List Handling,
      Account harvester (pages.flatMap Page.accepted) (.start, .empty)
        (harvester.harvestPages pages state).1 (harvester.log pages state) handlings := by
  obtain ⟨added, runs, accounted⟩ := harvestPages_records harvester pages state []
  rw [log, runs]
  exact accounted

end Harvester

end LinkSieve.Harvest
