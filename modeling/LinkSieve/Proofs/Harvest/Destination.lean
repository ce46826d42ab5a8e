import Mathlib.Data.List.Pairwise
import LinkSieve.Proofs.Harvest.FileName
import LinkSieve.Proofs.Harvest.Run
/-!
# Where a run saves

A run hands out a file name at most once, and it hands out none but names that a file of a directory
can have. So every file that it writes lies directly in its directory, and no two URLs are saved in
the same file, whatever the pages say and however the fetches turn out.
-/

namespace LinkSieve.Harvest

open LinkSieve.Link LinkSieve.Retrieval

namespace Progress

/-- A name in the plan is a file name that was not given away before. -/
theorem fileName_of_mem_plan {progress : Progress} {urls : List String} {assignment : Assignment}
    (member : assignment ∈ progress.plan urls) {fileName : String}
    (named : assignment.fileName = some fileName) :
    IsFileName fileName.toList ∧ fileName ∉ progress.claimed := by
  induction urls generalizing progress with
  | nil => cases member
  | cons url urls inductionHypothesis =>
    rw [plan] at member
    split at member
    next => exact inductionHypothesis member
    next =>
      rcases List.mem_cons.mp member with rfl | later
      · obtain ⟨name, wanted, rfl⟩ := Option.map_eq_some_iff.mp named
        have isFileName : IsFileName (String.ofList name).toList := by
          rw [String.toList_ofList]
          exact isFileName_of_fileName? wanted
        exact ⟨isFileName_freeName isFileName _, (freeName_spec _ _).1⟩
      · obtain ⟨isFileName, free⟩ := inductionHypothesis later
        exact ⟨isFileName, fun claimed => free (List.mem_append_right _ claimed)⟩

/-- No name is in the plan twice, since a name is claimed as soon as it is given away. -/
theorem nodup_fileNames_plan (progress : Progress) (urls : List String) :
    ((progress.plan urls).filterMap (·.fileName)).Nodup := by
  induction urls generalizing progress with
  | nil => exact List.nodup_nil
  | cons url urls inductionHypothesis =>
    rw [plan]
    split
    next => exact inductionHypothesis progress
    next =>
      have others := inductionHypothesis (progress.advance (progress.assignment url))
      rw [List.filterMap_cons]
      cases named : (progress.assignment url).fileName with
      | none => exact others
      | some fileName =>
        refine List.nodup_cons.mpr ⟨?_, others⟩
        intro again
        obtain ⟨assignment, later, same⟩ := List.mem_filterMap.mp again
        have free := (fileName_of_mem_plan later same).2
        exact free (by simp [advance, named])

end Progress

namespace Account

variable {m : Type → Type} {harvester : Harvester m} {urls : List String}
  {before after : Progress × Report} {log : List Exchange} {handlings : List Handling}

/-- A URL is visited under a file name that a file of a directory can have. -/
theorem isFileName (account : Account harvester urls before after log handlings)
    {handling : Handling} (member : handling ∈ handlings) {fileName : String} {visit : Visit}
    (visited : handling.visit = some (fileName, visit)) : IsFileName fileName.toList := by
  have planned : handling.assignment ∈ before.1.plan urls := by
    rw [← account.planned]
    exact List.mem_map_of_mem member
  have named : handling.assignment.fileName = some fileName := by
    simp [Handling.assignment, visited]
  exact (Progress.fileName_of_mem_plan planned named).1

/-- No two handlings have the same file name. -/
theorem pairwise_fileNames (account : Account harvester urls before after log handlings) :
    handlings.Pairwise fun first second =>
      ∀ visited ∈ first.visit, ∀ other ∈ second.visit, visited.1 ≠ other.1 := by
  have names : (before.1.plan urls).filterMap (·.fileName) =
      (handlings.filterMap (·.visit)).map Prod.fst := by
    rw [← account.planned, List.filterMap_map, List.map_filterMap]
    rfl
  have distinct := before.1.nodup_fileNames_plan urls
  rw [names] at distinct
  exact List.pairwise_filterMap.mp (List.pairwise_map.mp distinct)

/-- Handlings with the same file name are the same. -/
theorem eq_of_fileName_eq (account : Account harvester urls before after log handlings)
    {first second : Handling} (firstMember : first ∈ handlings) (secondMember : second ∈ handlings)
    {fileName : String} {visit other : Visit} (visited : first.visit = some (fileName, visit))
    (otherVisited : second.visit = some (fileName, other)) : first = second := by
  have symmetric : Std.Symm fun first second : Handling =>
      ∀ visited ∈ first.visit, ∀ other ∈ second.visit, visited.1 ≠ other.1 :=
    ⟨fun _ _ apart visited here other there => (apart other there visited here).symm⟩
  by_contra different
  have apart := account.pairwise_fileNames.forall firstMember secondMember different
  exact apart _ visited _ otherVisited rfl

/-- A fetch is one of a URL that is visited, into the file of its name. -/
theorem fetched_mem (account : Account harvester urls before after log handlings)
    {url destination : String} {answer : FetchOutcome}
    (member : .fetched url destination answer ∈ log) :
    ∃ handling ∈ handlings, ∃ fileName visit, handling.visit = some (fileName, visit) ∧
      handling.url = url ∧ destination = joinPath harvester.directory fileName := by
  rw [account.log] at member
  obtain ⟨handling, handled, fetched⟩ := List.mem_flatMap.mp member
  unfold Handling.exchanges at fetched
  split at fetched
  next => cases fetched
  next fileName visit visited =>
    obtain ⟨rfl, rfl, -⟩ := Visit.fetched_mem_exchanges.mp fetched
    exact ⟨handling, handled, fileName, visit, visited, rfl, rfl⟩

/-- The last fetch of a visit is among the calls. -/
theorem fetched_of_visit (account : Account harvester urls before after log handlings)
    {handling : Handling} (member : handling ∈ handlings) {fileName : String} {visit : Visit}
    (visited : handling.visit = some (fileName, visit)) :
    .fetched handling.url (joinPath harvester.directory fileName) visit.last ∈ log := by
  rw [account.log]
  refine List.mem_flatMap.mpr ⟨handling, member, ?_⟩
  rw [Handling.exchanges, visited]
  exact Visit.fetched_mem_exchanges.mpr ⟨rfl, rfl, Or.inl rfl⟩

end Account

/-- An entry for a URL that was saved names the file that the URL was fetched into, with success. -/
theorem Handling.visit_of_download? {policy : Policy} {handling : Handling} {download : Download}
    (entered : handling.download? policy = some download) :
    ∃ visit, handling.visit = some (download.fileName, visit) ∧ handling.url = download.url ∧
      visit.last.delivers = true := by
  obtain ⟨url, visit⟩ := handling
  unfold download? outcome at entered
  cases visit with
  | none => cases entered
  | some visited =>
    have succeeds := visited.2.isOk_result policy url
    dsimp only at entered
    cases led : visited.2.result policy url with
    | ok retrieved =>
      rw [led] at entered succeeds
      cases entered
      exact ⟨visited.2, rfl, rfl, succeeds.symm⟩
    | error error =>
      rw [led] at entered
      cases entered

namespace Harvester

variable {σ : Type}

/-- A run writes into its directory and gives each URL a file of its own. Whatever the pages and the
answers of the retriever are, every fetch goes into a file of the directory whose name is a single
segment and no dot segment; fetches into the same file are fetches of the same URL, also where they
failed; and what is reported as saved was fetched into the file that is reported, so that no file
name is reported twice. -/
theorem harvestPages_stays_in_directory (harvester : Harvester (StateM σ)) (pages : List Page)
    (state : σ) :
    (∀ url destination answer,
      .fetched url destination answer ∈ harvester.log pages state →
        ∃ fileName, destination = joinPath harvester.directory fileName ∧
          IsFileName fileName.toList) ∧
    (∀ url other destination answer otherAnswer,
      .fetched url destination answer ∈ harvester.log pages state →
      .fetched other destination otherAnswer ∈ harvester.log pages state → url = other) ∧
    (∀ download ∈ (harvester.report pages state).downloaded,
      (∃ answer, .fetched download.url (joinPath harvester.directory download.fileName) answer ∈
        harvester.log pages state) ∧
      ∀ destination answer,
        .fetched download.url destination answer ∈ harvester.log pages state →
          destination = joinPath harvester.directory download.fileName) ∧
    ((harvester.report pages state).downloaded.map (·.fileName)).Nodup := by
  obtain ⟨handlings, account⟩ := harvester.exists_account pages state
  have downloaded : (harvester.report pages state).downloaded =
      handlings.filterMap (Handling.download? harvester.policy) := account.downloaded
  refine ⟨?_, ?_, ?_, ?_⟩
  · intro url destination answer fetched
    obtain ⟨handling, member, fileName, visit, visited, -, same⟩ := account.fetched_mem fetched
    exact ⟨fileName, same, account.isFileName member visited⟩
  · intro url other destination answer otherAnswer fetched otherFetched
    obtain ⟨handling, member, fileName, visit, visited, rfl, rfl⟩ := account.fetched_mem fetched
    obtain ⟨second, secondMember, otherName, otherVisit, otherVisited, rfl, same⟩ :=
      account.fetched_mem otherFetched
    obtain rfl := joinPath_injective _ same
    rw [account.eq_of_fileName_eq member secondMember visited otherVisited]
  · intro download saved
    rw [downloaded] at saved
    obtain ⟨handling, member, entered⟩ := List.mem_filterMap.mp saved
    obtain ⟨visit, visited, sameUrl, -⟩ := Handling.visit_of_download? entered
    constructor
    · rw [← sameUrl]
      exact ⟨_, account.fetched_of_visit member visited⟩
    · intro destination answer fetched
      obtain ⟨other, otherMember, fileName, otherVisit, otherVisited, sameOther, rfl⟩ :=
        account.fetched_mem fetched
      have sameHandling : other = handling :=
        List.inj_on_of_nodup_map account.nodup_urls otherMember member
          (sameOther.trans sameUrl.symm)
      rw [sameHandling, visited] at otherVisited
      cases otherVisited
      rfl
  · rw [downloaded]
    refine List.pairwise_map.mpr (List.pairwise_filterMap.mpr ?_)
    refine account.pairwise_fileNames.imp ?_
    intro first second distinct download entered other otherEntered
    obtain ⟨visit, visited, -, -⟩ := Handling.visit_of_download? entered
    obtain ⟨otherVisit, otherVisited, -, -⟩ := Handling.visit_of_download? otherEntered
    exact distinct _ visited _ otherVisited

end Harvester

end LinkSieve.Harvest
