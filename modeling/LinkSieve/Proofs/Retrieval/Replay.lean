import LinkSieve.Proofs.Retrieval.Recording
/-!
# Replaying a record

The record of a retriever tells all that was done to its state: the same calls, made again from the
state before, give the recorded answers and lead to the state after. So what a program does to the
state can be read off the record, without the program.
-/

namespace LinkSieve.Retrieval

variable {σ α β : Type}

/-- The calls of a record lead a retriever from one state to another, with the recorded answers. -/
inductive Replays (retriever : Retriever (StateM σ)) : σ → List Exchange → σ → Prop where
  | done (state : σ) : Replays retriever state [] state
  | fetched {state final : σ} {log : List Exchange} (url destination : String)
      (rest : Replays retriever (retriever.fetch url destination state).2 log final) :
      Replays retriever state
        (.fetched url destination (retriever.fetch url destination state).1 :: log) final
  | paused {state final : σ} {log : List Exchange} (duration : Duration)
      (rest : Replays retriever (retriever.pause duration state).2 log final) :
      Replays retriever state (.paused duration :: log) final

namespace Replays

variable {retriever : Retriever (StateM σ)} {before between after : σ} {log more : List Exchange}

/-- Records that follow each other are replayed one after the other. -/
theorem append (first : Replays retriever before log between)
    (second : Replays retriever between more after) :
    Replays retriever before (log ++ more) after := by
  induction first with
  | done state => exact second
  | fetched url destination _ inductionHypothesis =>
    exact .fetched url destination (inductionHypothesis second)
  | paused duration _ inductionHypothesis => exact .paused duration (inductionHypothesis second)

/-- A record that is replayed is replayed up to any point, and from there on. -/
theorem exists_of_append (replays : Replays retriever before (log ++ more) after) :
    ∃ between, Replays retriever before log between ∧ Replays retriever between more after := by
  induction log generalizing before with
  | nil => exact ⟨before, .done before, replays⟩
  | cons exchange log inductionHypothesis =>
    cases replays with
    | fetched url destination rest =>
      obtain ⟨between, first, second⟩ := inductionHypothesis rest
      exact ⟨between, .fetched url destination first, second⟩
    | paused duration rest =>
      obtain ⟨between, first, second⟩ := inductionHypothesis rest
      exact ⟨between, .paused duration first, second⟩

/-- A fetch at the beginning of a record was answered as the retriever answers it. -/
theorem of_fetched {url destination : String} {answer : FetchOutcome}
    (replays : Replays retriever before (.fetched url destination answer :: log) after) :
    answer = (retriever.fetch url destination before).1 ∧
      Replays retriever (retriever.fetch url destination before).2 log after := by
  cases replays with
  | fetched _ _ rest => exact ⟨rfl, rest⟩

/-- What every call keeps is kept by all of them. -/
theorem keeps {τ : Type} {part : σ → τ}
    (fetches : ∀ url destination, Keeps part (retriever.fetch url destination))
    (pauses : ∀ duration, Keeps part (retriever.pause duration))
    (replays : Replays retriever before log after) : part after = part before := by
  induction replays with
  | done state => rfl
  | fetched url destination _ inductionHypothesis =>
    exact inductionHypothesis.trans (fetches url destination _)
  | paused duration _ inductionHypothesis => exact inductionHypothesis.trans (pauses duration _)

/-- A record of nothing leaves the state alone. -/
theorem of_nil (replays : Replays retriever before [] after) : after = before := by
  cases replays
  rfl

end Replays

/-- What a program adds to the record leads from the state before it to the state after it. -/
def Replayed (retriever : Retriever (StateM σ)) (program : StateM (σ × List Exchange) α) : Prop :=
  ∀ state log, ∃ added, (program (state, log)).2.2 = log ++ added ∧
    Replays retriever state added (program (state, log)).2.1

namespace Replayed

variable {retriever : Retriever (StateM σ)}

/-- A program that makes no call is replayed. -/
theorem pure (value : α) : Replayed retriever (Pure.pure value) := by
  intro state log
  exact ⟨[], (List.append_nil log).symm, .done state⟩

/-- Programs that follow each other are replayed one after the other. -/
theorem bind {program : StateM (σ × List Exchange) α} {next : α → StateM (σ × List Exchange) β}
    (first : Replayed retriever program) (second : ∀ value, Replayed retriever (next value)) :
    Replayed retriever (program >>= next) := by
  intro state log
  obtain ⟨added, logged, reached⟩ := first state log
  obtain ⟨more, continued, final⟩ := second (program (state, log)).1
    (program (state, log)).2.1 (program (state, log)).2.2
  refine ⟨added ++ more, ?_, reached.append final⟩
  calc ((program >>= next) (state, log)).2.2
      = (program (state, log)).2.2 ++ more := continued
    _ = log ++ (added ++ more) := by rw [logged, List.append_assoc]

/-- A loop is replayed step by step. -/
theorem foldlM {step : β → α → StateM (σ × List Exchange) β}
    (steps : ∀ state item, Replayed retriever (step state item)) (items : List α) (state : β) :
    Replayed retriever (items.foldlM step state) := by
  induction items generalizing state with
  | nil => exact .pure state
  | cons item items inductionHypothesis =>
    rw [List.foldlM_cons]
    exact (steps state item).bind inductionHypothesis

end Replayed

variable (retriever : Retriever (StateM σ))

/-- A fetch is replayed. -/
theorem fetch_replayed (url destination : String) :
    Replayed retriever (retriever.recording.fetch url destination) := by
  intro state log
  exact ⟨_, rfl, .fetched url destination (.done _)⟩

/-- A pause is replayed. -/
theorem pause_replayed (duration : Duration) :
    Replayed retriever (retriever.recording.pause duration) := by
  intro state log
  exact ⟨_, rfl, .paused duration (.done _)⟩

/-- The attempts of a retrieval are replayed. The induction is on the attempts that are left. -/
theorem attempt_replayed (policy : Policy) (url destination : String) (left : Nat) :
    Replayed retriever (retriever.recording.attempt policy url destination left) := by
  induction left with
  | zero => exact .pure _
  | succ left inductionHypothesis =>
    unfold Retriever.attempt
    refine (fetch_replayed retriever url destination).bind fun answer => ?_
    cases answer with
    | saved bytes => exact .pure _
    | alreadyPresent bytes => exact .pure _
    | failed reason => exact .pure _
    | rateLimited hint =>
      dsimp only
      split
      next => exact (pause_replayed retriever _).bind fun _ => inductionHypothesis
      next => exact inductionHypothesis

end LinkSieve.Retrieval
