import Mathlib.Data.List.Induction
import LinkSieve.Proofs.Files.Fetch
import LinkSieve.Proofs.Harvest.Destination
import LinkSieve.Proofs.Harvest.Replay
/-!
# What a local run delivers

A run over local files copies one file after the other, and each copy goes to a place of its own. A
place where a file was saved may be the place of a file that another link names. If this link came
first, its file was copied before. If it comes later, its file is lost, and what was saved in its
place is copied instead. Beside that, a link can name a directory, which has no contents to deliver. A
run delivers to everything else what its links named when it began.
-/

namespace LinkSieve.Harvest

open LinkSieve.Link LinkSieve.Retrieval LinkSieve.Files

/-- A file was saved in the place of the file that the URL of another download names. A file that was
already present was not saved. -/
def Download.Overwrites (tree : Tree) (directory : String) (earlier later : Download) : Prop :=
  earlier.alreadyPresent = false ∧ ∃ path ∈ (localPath later.url.toList).toOption,
    ∃ place ∈ tree.place? path, tree.place? (joinPath directory earlier.fileName) = some place

instance (tree : Tree) (directory : String) (earlier later : Download) :
    Decidable (earlier.Overwrites tree directory later) :=
  inferInstanceAs (Decidable (_ ∧ ∃ path ∈ (localPath later.url.toList).toOption,
    ∃ place ∈ tree.place? path, _))

/-- The contents of the file that a URL names in one tree are those of a file with a given name in
another one. -/
def Delivers (initial current : Tree) (directory url fileName : String) : Prop :=
  ∃ path content, localPath url.toList = .ok path ∧ initial.read path = .ok content ∧
    current.read (joinPath directory fileName) = .ok content

/-- What handling a URL does to a tree. -/
def Handling.Acts (directory : String) (handling : Handling) (before after : Tree) : Prop :=
  match handling.visit with
  | none => after = before
  | some (fileName, visit) =>
    before.Fetches handling.url (joinPath directory fileName) visit.last after

/-- A local fetch is never turned down, so a visit is a single fetch. -/
theorem Handling.acts_of_replays {pause : Duration → StateM Tree Unit} {policy : Policy}
    {directory : String} {handling : Handling} {before after : Tree}
    (replays : Replays (Tree.system.retriever pause) before
      (handling.exchanges policy directory) after) : handling.Acts directory before after := by
  obtain ⟨url, _ | ⟨fileName, hints, last⟩⟩ := handling
  · exact replays.of_nil
  · have fetches := Tree.fetch_fetches before url (joinPath directory fileName)
    cases hints with
    | nil =>
      have single : Replays (Tree.system.retriever pause) before
          [.fetched url (joinPath directory fileName) last] after := replays
      obtain ⟨rfl, rest⟩ := single.of_fetched
      obtain rfl := rest.of_nil
      exact fetches
    | cons hint hints =>
      have limited : .rateLimited hint =
          (Tree.system.fetch url (joinPath directory fileName) before).1 :=
        replays.of_fetched.1
      rw [← limited] at fetches
      cases fetches

/-- An entry for a file that was saved says so. -/
theorem Handling.download?_of_saved {policy : Policy} {handling : Handling} {fileName : String}
    {visit : Visit} {bytes : Nat} (visited : handling.visit = some (fileName, visit))
    (saved : visit.last = .saved bytes) :
    handling.download? policy = some ⟨handling.url, fileName, bytes, false⟩ := by
  simp [download?, outcome, visited, Visit.result, saved, Except.toOption]

/-- A handling that does not end in the report as a download has done nothing. -/
theorem Handling.Acts.eq_of_download?_eq_none {policy : Policy} {directory : String}
    {handling : Handling} {before after : Tree} (acts : handling.Acts directory before after)
    (nothing : handling.download? policy = none) : after = before := by
  obtain ⟨url, _ | ⟨fileName, visit⟩⟩ := handling
  · exact acts
  · have fetches : before.Fetches url (joinPath directory fileName) visit.last after := acts
    refine fetches.eq_of_not_saved fun bytes saved => ?_
    rw [download?_of_saved rfl saved] at nothing
    cases nothing

/-- Where a run over local files stands after some downloads, compared with the tree that it began
with. Only places where a file was saved differ, and what was delivered is still there. A download was
delivered unless one before it was saved in the place of its file, or a directory is in its own
place. -/
structure Delivered (initial : Tree) (directory : String) (downloads : List Download)
    (current : Tree) : Prop where
  sameDirectories : initial.SameDirectories current
  changed : ∀ place, current.get? place ≠ initial.get? place → ∃ download ∈ downloads,
    download.alreadyPresent = false ∧
      initial.place? (joinPath directory download.fileName) = some place
  delivers : ∀ earlier download later, downloads = earlier ++ download :: later →
    (∀ other ∈ earlier, ¬other.Overwrites initial directory download) →
    initial.leadsToDirectory (joinPath directory download.fileName) = false →
    Delivers initial current directory download.url download.fileName

namespace Delivered

variable {initial current after : Tree} {directory : String} {downloads : List Download}
  {download : Download}

/-- A run begins with its tree. -/
theorem start (initial : Tree) (directory : String) : Delivered initial directory [] initial where
  sameDirectories := .refl initial
  changed _ different := absurd rfl different
  delivers earlier download later none := by cases earlier <;> cases none

/-- What a link leads to when its turn comes is what it led to at the beginning, unless the run has
saved something in its place. -/
theorem locate_source (delivered : Delivered initial directory downloads current)
    (spared : ∀ earlier ∈ downloads, ¬earlier.Overwrites initial directory download)
    {path : String} {source : Place} {entry : Entry}
    (names : localPath download.url.toList = .ok path)
    (located : current.locate path = .ok (source, entry)) :
    initial.locate path = .ok (source, entry) := by
  obtain ⟨leads, stands⟩ := Tree.place?_of_locate_eq_ok located
  rw [delivered.sameDirectories.place?] at leads
  by_cases same : current.get? source = initial.get? source
  · exact delivered.sameDirectories.symm.locate located (same ▸ stands)
  · obtain ⟨earlier, member, saved, there⟩ := delivered.changed source same
    have named : path ∈ (localPath download.url.toList).toOption := by
      rw [names]
      rfl
    exact absurd ⟨saved, path, named, source, leads, there⟩ (spared earlier member)

/-- One more download is delivered itself, and leaves the others delivered. -/
theorem delivers_snoc
    (others : ∀ earlier other later, downloads = earlier ++ other :: later →
      (∀ before ∈ earlier, ¬before.Overwrites initial directory other) →
      initial.leadsToDirectory (joinPath directory other.fileName) = false →
      Delivers initial after directory other.url other.fileName)
    (last : (∀ earlier ∈ downloads, ¬earlier.Overwrites initial directory download) →
      initial.leadsToDirectory (joinPath directory download.fileName) = false →
      Delivers initial after directory download.url download.fileName)
    (earlier : List Download) (other : Download) (later : List Download)
    (split : downloads ++ [download] = earlier ++ other :: later)
    (spared : ∀ before ∈ earlier, ¬before.Overwrites initial directory other)
    (noDirectory : initial.leadsToDirectory (joinPath directory other.fileName) = false) :
    Delivers initial after directory other.url other.fileName := by
  rcases List.eq_nil_or_concat' later with rfl | ⟨between, final, rfl⟩
  · obtain ⟨rfl, same⟩ := List.append_inj' split rfl
    obtain rfl := List.singleton_inj.mp same
    exact last spared noDirectory
  · rw [← List.cons_append, ← List.append_assoc] at split
    obtain ⟨same, -⟩ := List.append_inj' split rfl
    exact others earlier other between same spared noDirectory

/-- A file that is left alone because it is its own destination was delivered before. -/
theorem snoc_present (delivered : Delivered initial directory downloads current)
    (begins : IsNamed current.workingDirectory) {path resolved : String}
    (names : localPath download.url.toList = .ok path)
    (together : current.common? path (joinPath directory download.fileName) = some resolved) :
    Delivered initial directory (downloads ++ [download]) current where
  sameDirectories := delivered.sameDirectories
  changed place different := by
    obtain ⟨earlier, member, saved⟩ := delivered.changed place different
    exact ⟨earlier, List.mem_append_left _ member, saved⟩
  delivers := by
    refine delivers_snoc delivered.delivers fun spared noDirectory => ?_
    obtain ⟨place, entry, -, source, there⟩ := (Tree.common?_eq_some_iff begins).mp together
    have located := delivered.locate_source spared names source
    have stands := (Tree.place?_of_locate_eq_ok located).2
    cases entry with
    | directory =>
      rw [Tree.leadsToDirectory, delivered.sameDirectories.symm.locate there stands] at noDirectory
      cases noDirectory
    | file content =>
      exact ⟨path, content, names, Tree.read_eq_ok_iff.mpr ⟨place, located⟩,
        Tree.read_eq_ok_iff.mpr ⟨place, there⟩⟩

/-- A file that is saved at a place changes nothing elsewhere. -/
theorem snoc_saved (delivered : Delivered initial directory downloads current)
    {path : String} {source place : Place} {content : Content}
    (saved : download.alreadyPresent = false) (names : localPath download.url.toList = .ok path)
    (located : current.locate path = .ok (source, .file content))
    (free : current.writable (joinPath directory download.fileName) = .ok place)
    (apart : ∀ other ∈ downloads,
      current.place? (joinPath directory other.fileName) ≠ some place) :
    Delivered initial directory (downloads ++ [download]) (current.set place (.file content)) := by
  obtain ⟨leads, noDirectory⟩ := Tree.place?_of_writable_eq_ok free
  have same := Tree.sameDirectories_set noDirectory content
  constructor
  · exact delivered.sameDirectories.trans same
  · intro changed different
    by_cases here : changed = place
    · refine ⟨download, List.mem_append_right _ (List.mem_singleton_self _), saved, ?_⟩
      rw [here]
      exact (delivered.sameDirectories.place? _).symm.trans leads
    · rw [Tree.get?_set_of_ne here] at different
      obtain ⟨earlier, member, there⟩ := delivered.changed changed different
      exact ⟨earlier, List.mem_append_left _ member, there⟩
  · refine delivers_snoc ?_ ?_
    · intro earlier other later split spared noDirectory
      obtain ⟨otherPath, otherContent, otherNames, read, there⟩ :=
        delivered.delivers earlier other later split spared noDirectory
      obtain ⟨otherPlace, otherLocated⟩ := Tree.read_eq_ok_iff.mp there
      obtain ⟨otherLeads, stands⟩ := Tree.place?_of_locate_eq_ok otherLocated
      have different : otherPlace ≠ place := by
        rintro rfl
        exact apart other (by simp [split]) otherLeads
      have kept := same.locate otherLocated ((Tree.get?_set_of_ne different).trans stands)
      exact ⟨otherPath, otherContent, otherNames, read, Tree.read_eq_ok_iff.mpr ⟨_, kept⟩⟩
    · intro spared noDirectory
      have began := delivered.locate_source spared names located
      exact ⟨path, content, names, Tree.read_eq_ok_iff.mpr ⟨source, began⟩,
        Tree.read_eq_ok_iff.mpr ⟨place, Tree.locate_set_of_writable free content⟩⟩

/-- The files of different names have different places. -/
theorem place?_ne {first second : String} {place : Place} (firstName : IsFileName first.toList)
    (secondName : IsFileName second.toList) (different : first ≠ second)
    (leads : current.place? (joinPath directory second) = some place) :
    current.place? (joinPath directory first) ≠ some place := by
  intro together
  have firstLast := Tree.getLast?_of_place? firstName
    (afterLast_joinPath firstName.noSlash directory) together
  have secondLast := Tree.getLast?_of_place? secondName
    (afterLast_joinPath secondName.noSlash directory) leads
  exact different (Option.some.inj (firstLast.symm.trans secondLast))

/-- A handling delivers its URL and keeps what was delivered. -/
theorem step {policy : Policy} {handlings : List Handling} {handling : Handling}
    (delivered : Delivered initial directory (handlings.filterMap (Handling.download? policy))
      current)
    (begins : IsNamed current.workingDirectory) (acts : handling.Acts directory current after)
    (apart : ∀ earlier ∈ handlings, ∀ other ∈ earlier.visit, ∀ visited ∈ handling.visit,
      IsFileName other.1.toList ∧ IsFileName visited.1.toList ∧ other.1 ≠ visited.1) :
    Delivered initial directory
      ((handlings ++ [handling]).filterMap (Handling.download? policy)) after := by
  rw [List.filterMap_append]
  cases entered : handling.download? policy with
  | none =>
    rw [List.filterMap_cons_none entered, acts.eq_of_download?_eq_none entered, List.filterMap_nil,
      List.append_nil]
    exact delivered
  | some download =>
    rw [List.filterMap_cons_some entered]
    obtain ⟨visit, visited, sameUrl, succeeds⟩ := Handling.visit_of_download? entered
    have fetches : current.Fetches handling.url (joinPath directory download.fileName) visit.last
        after := by
      unfold Handling.Acts at acts
      rwa [visited] at acts
    rw [sameUrl] at fetches
    generalize last : visit.last = answer at fetches succeeds
    cases fetches with
    | failed reason => cases succeeds
    | alreadyPresent names together size => exact delivered.snoc_present begins names together
    | saved names located free elsewhere =>
      have new : download.alreadyPresent = false := by
        rw [Handling.download?_of_saved visited last] at entered
        exact congrArg Download.alreadyPresent (Option.some.inj entered).symm
      refine delivered.snoc_saved new names located free ?_
      intro other member
      obtain ⟨earlier, handled, otherEntered⟩ := List.mem_filterMap.mp member
      obtain ⟨otherVisit, otherVisited, -, -⟩ := Handling.visit_of_download? otherEntered
      obtain ⟨otherName, name, different⟩ := apart earlier handled _ otherVisited _ visited
      exact place?_ne otherName name different (Tree.place?_of_writable_eq_ok free).1

/-- What the handlings of a record deliver. The induction is on the handlings from their end, since
the last one acts on the tree that the others have left. -/
theorem of_replays {pause : Duration → StateM Tree Unit} {policy : Policy}
    {handlings : List Handling} (begins : IsNamed initial.workingDirectory)
    (apart : handlings.Pairwise fun earlier later =>
      ∀ other ∈ earlier.visit, ∀ visited ∈ later.visit,
        IsFileName other.1.toList ∧ IsFileName visited.1.toList ∧ other.1 ≠ visited.1)
    (replays : Replays (Tree.system.retriever pause) initial
      (handlings.flatMap (Handling.exchanges policy directory)) current) :
    Delivered initial directory (handlings.filterMap (Handling.download? policy)) current := by
  induction handlings using List.reverseRecOn generalizing current with
  | nil =>
    rw [replays.of_nil]
    exact start initial directory
  | append_singleton handlings handling inductionHypothesis =>
    rw [List.flatMap_append, List.flatMap_singleton] at replays
    obtain ⟨between, first, last⟩ := replays.exists_of_append
    obtain ⟨apartBefore, -, apartLast⟩ := List.pairwise_append.mp apart
    have delivered := inductionHypothesis apartBefore first
    have beginsBetween : IsNamed between.workingDirectory := by
      rw [delivered.sameDirectories.workingDirectory]
      exact begins
    exact delivered.step beginsBetween (Handling.acts_of_replays last)
      (fun earlier member => apartLast earlier member handling List.mem_cons_self)

end Delivered

/-- A harvester that copies local files. -/
def localHarvester (pause : Duration → StateM Tree Unit) (policy : Policy) (directory : String) :
    Harvester (StateM Tree) :=
  ⟨Tree.system.retriever pause, policy, directory⟩

/-- A run over local files delivers what its links named when it began: the file that is reported has
the contents that the file named by its URL had before the run. This holds of each download as long as
none before it was saved in the place of the file that its URL names, and as long as there is no
directory in its own place. The working directory of the tree has a path. -/
theorem localHarvester_delivers (pause : Duration → StateM Tree Unit) (policy : Policy)
    (directory : String) (pages : List Page) (tree : Tree) (begins : IsNamed tree.workingDirectory)
    {earlier later : List Download} {download : Download}
    (reported : ((localHarvester pause policy directory).report pages tree).downloaded =
      earlier ++ download :: later)
    (spared : ∀ other ∈ earlier, ¬other.Overwrites tree directory download)
    (noDirectory : tree.leadsToDirectory (joinPath directory download.fileName) = false) :
    Delivers tree ((localHarvester pause policy directory).harvestPages pages tree).2 directory
      download.url download.fileName := by
  obtain ⟨handlings, account⟩ := (localHarvester pause policy directory).exists_account pages tree
  have replays := (localHarvester pause policy directory).replays_harvestPages pages tree
  rw [account.log] at replays
  have apart := account.pairwise_fileNames.imp_of_mem
    fun {first second} firstMember secondMember different other otherVisited visited here =>
      (⟨account.isFileName firstMember otherVisited, account.isFileName secondMember here,
        different other otherVisited visited here⟩ :
        IsFileName other.1.toList ∧ IsFileName visited.1.toList ∧ other.1 ≠ visited.1)
  have delivered := Delivered.of_replays begins apart replays
  exact delivered.delivers earlier download later (account.downloaded.symm.trans reported) spared
    noDirectory

/-- A site with a file, and with an older one of the same name in a directory below. -/
def site : Tree where
  entries := [(["site"], .directory), (["site", "a.pdf"], .file [1]), (["site", "old"], .directory),
    (["site", "old", "a.pdf"], .file [2])]
  workingDirectory := ["site"]

/-- A page whose links are all accepted. -/
def Page.unfiltered (links : List String) : Page :=
  ⟨⟨.leaf ".*", .leaf ⟨".*", some fun _ => true⟩, .default⟩, none, links⟩

/-- The working directory of the site has a path. -/
theorem isNamed_site : IsNamed site.workingDirectory := by
  decide

/-- A run within the site delivers the older file too, if the one that is in its place comes first. -/
theorem localHarvester_delivers_site :
    let links := ["file:///site/a.pdf", "file:///site/old/a.pdf"]
    let harvester := localHarvester (fun _ => pure ()) .default "/site"
    let present : Download := ⟨"file:///site/a.pdf", "a.pdf", 1, true⟩
    let saved : Download := ⟨"file:///site/old/a.pdf", "a-1.pdf", 1, false⟩
    IsNamed site.workingDirectory ∧
      (harvester.report [.unfiltered links] site).downloaded = [present] ++ saved :: [] ∧
      (∀ other ∈ [present], ¬other.Overwrites site "/site" saved) ∧
      site.leadsToDirectory (joinPath "/site" saved.fileName) = false ∧
      Delivers site (harvester.harvestPages [.unfiltered links] site).2 "/site" saved.url
        saved.fileName := by
  intro links harvester present saved
  have reported : (harvester.report [.unfiltered links] site).downloaded =
      [present] ++ saved :: [] := by
    decide +kernel
  have spared : ∀ other ∈ [present], ¬other.Overwrites site "/site" saved := by
    decide +kernel
  have noDirectory : site.leadsToDirectory (joinPath "/site" saved.fileName) = false := by
    decide +kernel
  exact ⟨isNamed_site, reported, spared, noDirectory,
    localHarvester_delivers _ _ _ _ site isNamed_site reported spared noDirectory⟩

/-- If it comes first, it is saved in the place of the other file, and then delivered twice. -/
theorem localHarvester_loses_file :
    let links := ["file:///site/old/a.pdf", "file:///site/a.pdf"]
    let harvester := localHarvester (fun _ => pure ()) .default "/site"
    ¬∀ download ∈ (harvester.report [.unfiltered links] site).downloaded,
        Delivers site (harvester.harvestPages [.unfiltered links] site).2 "/site" download.url
          download.fileName := by
  intro links harvester delivers
  have reported : (harvester.report [.unfiltered links] site).downloaded =
      [⟨"file:///site/old/a.pdf", "a.pdf", 1, false⟩,
        ⟨"file:///site/a.pdf", "a-1.pdf", 1, false⟩] := by
    decide +kernel
  have member : ⟨"file:///site/a.pdf", "a-1.pdf", 1, false⟩ ∈
      (harvester.report [.unfiltered links] site).downloaded := by
    rw [reported]
    exact List.mem_cons_of_mem _ List.mem_cons_self
  obtain ⟨path, content, names, read, there⟩ := delivers _ member
  have named : (localPath "file:///site/a.pdf".toList).toOption = some "/site/a.pdf" := by
    decide +kernel
  rw [names] at named
  obtain rfl := Option.some.inj named
  have before : (site.read "/site/a.pdf").toOption = some [1] := by
    decide +kernel
  have after : ((harvester.harvestPages [.unfiltered links] site).2.read
      (joinPath "/site" "a-1.pdf")).toOption = some [2] := by
    decide +kernel
  rw [read] at before
  rw [there] at after
  exact absurd ((Option.some.inj before).symm.trans (Option.some.inj after)) (by decide)

end LinkSieve.Harvest
