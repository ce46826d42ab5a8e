import LinkSieve.Proofs.Harvest.Plan
import LinkSieve.Proofs.Retrieval.Recording
/-!
# How a run handles its links

A run handles a URL by a visit, or gives it up if it has no file name. What the report says about
a URL, and what the record has about it, is a function of how it was handled. An account of
accepted links has one handling for each URL of the plan, and the report and the record are those
of the handlings, in this order.
-/

namespace LinkSieve.Harvest

open LinkSieve.Retrieval

/-- How a URL was handled: under which file name it was visited, and how the visit went. A URL
without a file name is not visited. -/
structure Handling where
  url : String
  visit : Option (String × Visit)
  deriving Repr, DecidableEq

namespace Handling

/-- The part of the plan that was carried out. -/
def assignment (handling : Handling) : Assignment where
  url := handling.url
  fileName := handling.visit.map Prod.fst

/-- The calls that were made. -/
def exchanges (policy : Policy) (directory : String) (handling : Handling) : List Exchange :=
  match handling.visit with
  | none => []
  | some (fileName, visit) =>
    visit.exchanges policy handling.url (joinPath directory fileName)

/-- What the report says. -/
def outcome (policy : Policy) (handling : Handling) : Except Failure Download :=
  match handling.visit with
  | none => .error ⟨handling.url, "link has no file name"⟩
  | some (fileName, visit) =>
    match visit.result policy handling.url with
    | .ok retrieved => .ok ⟨handling.url, fileName, retrieved.bytes, retrieved.alreadyPresent⟩
    | .error error => .error ⟨handling.url, error.message⟩

/-- The entry for a URL that was saved. -/
def download? (policy : Policy) (handling : Handling) : Option Download :=
  (handling.outcome policy).toOption

/-- The entry for a URL that was given up. -/
def failure? (policy : Policy) (handling : Handling) : Option Failure :=
  match handling.outcome policy with
  | .ok _ => none
  | .error failure => some failure

end Handling

/-- The harvester with a record of the calls of its retriever. -/
def Harvester.recording {σ : Type} (harvester : Harvester (StateM σ)) :
    Harvester (StateM (σ × List Exchange)) where
  retriever := harvester.retriever.recording
  policy := harvester.policy
  directory := harvester.directory

/-- The handlings of accepted links. They lead from what a run remembers, and what it has
reported, to what it remembers and has reported afterwards, and to the calls that it records. -/
structure Account {m : Type → Type} (harvester : Harvester m) (urls : List String)
    (before after : Progress × Report) (log : List Exchange) (handlings : List Handling) :
    Prop where
  planned : handlings.map Handling.assignment = before.1.plan urls
  visits : ∀ handling ∈ handlings, ∀ fileName visit,
    handling.visit = some (fileName, visit) → visit.Uses harvester.policy.attempts
  progress : after.1 = before.1.after urls
  downloaded : after.2.downloaded =
    before.2.downloaded ++ handlings.filterMap (Handling.download? harvester.policy)
  failed : after.2.failed =
    before.2.failed ++ handlings.filterMap (Handling.failure? harvester.policy)
  log : log = handlings.flatMap (Handling.exchanges harvester.policy harvester.directory)

namespace Account

variable {m : Type → Type} {harvester : Harvester m}

/-- The account of no links. -/
theorem empty (state : Progress × Report) : Account harvester [] state state [] [] where
  planned := rfl
  visits := nofun
  progress := rfl
  downloaded := (List.append_nil _).symm
  failed := (List.append_nil _).symm
  log := rfl

/-- The account of a link that was dealt with before. -/
theorem passed {url : String} {state : Progress × Report} (handled : url ∈ state.1.handled) :
    Account harvester [url] state state [] [] := by
  have nothing : state.1.plan [url] = [] := by simp [Progress.plan, handled]
  constructor
  · exact nothing.symm
  · intro handling member
    exact absurd member List.not_mem_nil
  · rw [Progress.after, nothing, List.foldl_nil]
  · exact (List.append_nil _).symm
  · exact (List.append_nil _).symm
  · rfl

/-- The account of a link that is handled as planned. -/
theorem single {progress : Progress} {report reported : Report} {handling : Handling}
    (fresh : handling.url ∉ progress.handled)
    (planned : handling.assignment = progress.assignment handling.url)
    (visits : ∀ fileName visit, handling.visit = some (fileName, visit) →
      visit.Uses harvester.policy.attempts)
    (entered : reported = match handling.outcome harvester.policy with
      | .ok download => report.addDownload download
      | .error failure => report.addFailure failure) :
    Account harvester [handling.url] (progress, report)
      (progress.advance handling.assignment, reported)
      (handling.exchanges harvester.policy harvester.directory) [handling] := by
  have plan : progress.plan [handling.url] = [handling.assignment] := by
    simp [Progress.plan, fresh, planned]
  constructor
  · exact plan.symm
  · intro other member
    rw [List.mem_singleton.mp member]
    exact visits
  · rw [Progress.after, plan]
    rfl
  · rw [entered, List.filterMap_cons, Handling.download?]
    cases handling.outcome harvester.policy with
    | ok download => rfl
    | error failure => exact (List.append_nil _).symm
  · rw [entered, List.filterMap_cons, Handling.failure?]
    cases handling.outcome harvester.policy with
    | ok download => exact (List.append_nil _).symm
    | error failure => rfl
  · exact (List.append_nil _).symm

/-- Accounts of links that follow each other make one account. -/
theorem append {first second : List String} {before between after : Progress × Report}
    {firstLog secondLog : List Exchange} {firstHandlings secondHandlings : List Handling}
    (left : Account harvester first before between firstLog firstHandlings)
    (right : Account harvester second between after secondLog secondHandlings) :
    Account harvester (first ++ second) before after (firstLog ++ secondLog)
      (firstHandlings ++ secondHandlings) where
  planned := by
    rw [List.map_append, left.planned, right.planned, left.progress, Progress.plan_append]
  visits := by
    intro handling member
    rcases List.mem_append.mp member with inFirst | inSecond
    · exact left.visits handling inFirst
    · exact right.visits handling inSecond
  progress := by rw [right.progress, left.progress, Progress.after_append]
  downloaded := by
    rw [right.downloaded, left.downloaded, List.append_assoc, List.filterMap_append]
  failed := by rw [right.failed, left.failed, List.append_assoc, List.filterMap_append]
  log := by rw [left.log, right.log, List.flatMap_append]

end Account

/-- Whether accepted links have an account. -/
def Accounted {m : Type → Type} (harvester : Harvester m) (urls : List String)
    (before after : Progress × Report) (log : List Exchange) : Prop :=
  ∃ handlings, Account harvester urls before after log handlings

namespace Accounted

variable {m : Type → Type} {harvester : Harvester m}

/-- No links have the account of no links. -/
theorem empty (state : Progress × Report) : Accounted harvester [] state state [] :=
  ⟨[], .empty state⟩

/-- Links that follow each other have an account if both parts have one. -/
theorem append {first second : List String} {before between after : Progress × Report}
    {firstLog secondLog : List Exchange} (left : Accounted harvester first before between firstLog)
    (right : Accounted harvester second between after secondLog) :
    Accounted harvester (first ++ second) before after (firstLog ++ secondLog) := by
  obtain ⟨firstHandlings, first⟩ := left
  obtain ⟨secondHandlings, second⟩ := right
  exact ⟨firstHandlings ++ secondHandlings, first.append second⟩

end Accounted

section Recorded

variable {σ : Type} (harvester : Harvester (StateM σ))

/-- A single accepted link is accounted for: it is passed over if it was dealt with before, and
otherwise it is handled as planned. -/
theorem harvestLink_records (state : Progress × Report) (url : String) :
    Records (harvester.recording.harvestLink state url) (harvester.harvestLink state url)
      (Accounted harvester [url] state) := by
  obtain ⟨progress, report⟩ := state
  unfold Harvester.harvestLink
  dsimp only
  by_cases handled : url ∈ progress.handled
  · rw [if_pos handled, if_pos handled]
    exact .pure ⟨[], .passed handled⟩
  · rw [if_neg handled, if_neg handled]
    cases named : Link.fileName? url.toList with
    | none =>
      let handling : Handling := ⟨url, none⟩
      have planned : handling.assignment = progress.assignment url := by
        simp [handling, Handling.assignment, Progress.assignment, named]
      have visits (name : String) (visit : Visit) (same : handling.visit = some (name, visit)) :
          visit.Uses harvester.policy.attempts := by
        cases same
      exact .pure ⟨[handling], .single handled planned visits rfl⟩
    | some name =>
      refine (retrieve_records harvester.retriever harvester.policy url _).bind ?_
      rintro _ _ ⟨visit, uses, rfl, rfl⟩
      let fileName := freeName progress.claimed (String.ofList name)
      let handling : Handling := ⟨url, some (fileName, visit)⟩
      have planned : handling.assignment = progress.assignment url := by
        simp [handling, fileName, Handling.assignment, Progress.assignment, named]
      have visits (name : String) (other : Visit) (same : handling.visit = some (name, other)) :
          other.Uses harvester.policy.attempts := by
        cases same
        exact uses
      cases led : visit.result harvester.policy url with
      | ok retrieved =>
        refine .pure ⟨[handling], ?_⟩
        rw [List.append_nil]
        exact .single handled planned visits
          (by simp only [handling, Handling.outcome, led, fileName])
      | error error =>
        refine .pure ⟨[handling], ?_⟩
        rw [List.append_nil]
        exact .single handled planned visits (by simp only [handling, Handling.outcome, led])

/-- Accepted links are accounted for one after the other. -/
theorem harvestLinks_records (urls : List String) (state : Progress × Report) :
    Records (urls.foldlM harvester.recording.harvestLink state)
      (urls.foldlM harvester.harvestLink state) (Accounted harvester urls state) :=
  Records.foldlM (Accounted harvester) Accounted.empty Accounted.append
    (harvestLink_records harvester) urls state

end Recorded

end LinkSieve.Harvest
