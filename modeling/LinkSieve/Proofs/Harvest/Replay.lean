import LinkSieve.Proofs.Harvest.Run
import LinkSieve.Proofs.Retrieval.Replay
/-!
# Replaying a run

A run changes its state by nothing but the calls of its retriever. So its record, replayed from the
state that the run begins with, leads to the state that it ends with.
-/

namespace LinkSieve.Harvest

open LinkSieve.Retrieval

section Recorded

variable {σ : Type} (harvester : Harvester (StateM σ))

/-- Dealing with a link is replayed. -/
theorem harvestLink_replayed (state : Progress × Report) (url : String) :
    Replayed harvester.retriever (harvester.recording.harvestLink state url) := by
  unfold Harvester.harvestLink
  dsimp only
  split
  next => exact .pure _
  next =>
    split
    next => exact .pure _
    next =>
      refine (attempt_replayed harvester.retriever _ url _ _).bind ?_
      rintro (error | retrieved)
      · exact .pure _
      · exact .pure _

/-- Harvesting a page keeps what every call of the retriever keeps. -/
theorem Harvester.keeps_harvest {τ : Type} {part : σ → τ}
    (fetches : ∀ url destination, Keeps part (harvester.retriever.fetch url destination))
    (pauses : ∀ duration, Keeps part (harvester.retriever.pause duration)) (progress : Progress)
    (filter : Filter) (base : Option String) (links : List String) :
    Keeps part (harvester.harvest progress filter base links) := by
  intro state
  obtain ⟨added, runs, -⟩ := harvestLinks_records harvester
    (Selection.ofLinks filter base links).accepted
    (progress, ⟨links.length, (Selection.ofLinks filter base links).accepted.length, [], []⟩)
    state []
  obtain ⟨replayed, -, replays⟩ := Replayed.foldlM (harvestLink_replayed harvester) _ _ state []
  rw [runs] at replays
  exact replays.keeps fetches pauses

/-- Harvesting a page is replayed link by link. -/
theorem harvestPage_replayed (state : Progress × Report) (page : Page) :
    Replayed harvester.retriever (harvester.recording.harvestPage state page) :=
  (Replayed.foldlM (harvestLink_replayed harvester) _ _).bind fun _ => .pure _

/-- A run is replayed page by page. -/
theorem harvestPages_replayed (pages : List Page) :
    Replayed harvester.retriever (harvester.recording.harvestPages pages) :=
  .foldlM (harvestPage_replayed harvester) _ _

end Recorded

/-- The record of a run leads from the state before it to the state after it. -/
theorem Harvester.replays_harvestPages {σ : Type} (harvester : Harvester (StateM σ))
    (pages : List Page) (state : σ) :
    Replays harvester.retriever state (harvester.log pages state)
      (harvester.harvestPages pages state).2 := by
  obtain ⟨added, logged, replays⟩ := harvestPages_replayed harvester pages state []
  have recorded := harvester.recording_harvestPages pages state
  rw [recorded] at replays
  rw [recorded, List.nil_append] at logged
  obtain rfl : harvester.log pages state = added := logged
  exact replays

end LinkSieve.Harvest
