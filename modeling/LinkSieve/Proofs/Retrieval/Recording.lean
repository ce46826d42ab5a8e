import LinkSieve.Retrieval.Retry
import LinkSieve.Proofs.Steps
/-!
# Recorded retrievals

A retriever is observed by a record of its calls: which URL was fetched into which file, with
which answer, and how long each pause was. The recording retriever does what the retriever does
and writes each call down. It may work on any state and give any answers.

A program that uses the recording retriever records what it does with the retriever itself. Such
programs are compared step by step, and what one step adds to the record follows what the steps
before it added.
-/

namespace LinkSieve.Retrieval

/-- A call of a retriever. -/
inductive Exchange where
  | fetched (url destination : String) (answer : FetchOutcome)
  | paused (duration : Duration)
  deriving Repr, DecidableEq

variable {σ α β : Type}

/-- The retriever with a record of its calls, the last one at the end. -/
def Retriever.recording (retriever : Retriever (StateM σ)) :
    Retriever (StateM (σ × List Exchange)) where
  fetch url destination := fun (state, log) =>
    let (answer, state) := retriever.fetch url destination state
    (answer, (state, log ++ [.fetched url destination answer]))
  pause duration := fun (state, log) =>
    let ((), state) := retriever.pause duration state
    ((), (state, log ++ [.paused duration]))

/-- A program has the result and the effect of another one and adds to the record. What it adds is
related to its result. -/
def Records (recorded : StateM (σ × List Exchange) α) (program : StateM σ α)
    (relation : α → List Exchange → Prop) : Prop :=
  ∀ state log, ∃ added,
    recorded (state, log) = ((program state).1, ((program state).2, log ++ added)) ∧
      relation (program state).1 added

namespace Records

variable {recorded : StateM (σ × List Exchange) α} {program : StateM σ α}
  {relation : α → List Exchange → Prop}

/-- A program without effects adds nothing. -/
theorem pure {value : α} (holds : relation value []) :
    Records (σ := σ) (Pure.pure value) (Pure.pure value) relation := by
  intro state log
  exact ⟨[], by rw [List.append_nil]; rfl, holds⟩

/-- A second program adds to the record behind what the first one added. -/
theorem bind {recordedNext : α → StateM (σ × List Exchange) β} {next : α → StateM σ β}
    {outcome : β → List Exchange → Prop} (first : Records recorded program relation)
    (second : ∀ value added, relation value added →
      Records (recordedNext value) (next value) fun result more => outcome result (added ++ more)) :
    Records (recorded >>= recordedNext) (program >>= next) outcome := by
  intro state log
  obtain ⟨added, runs, holds⟩ := first state log
  obtain ⟨more, continues, reached⟩ := second _ added holds (program state).2 (log ++ added)
  refine ⟨added ++ more, ?_, reached⟩
  rw [bind_apply_of_eq runs]
  rw [List.append_assoc] at continues
  exact continues

/-- A loop adds what its steps add, in their order. A relation between the items of the loop, the
states before and after them and the record holds of the whole loop if it holds of no item, and of
an item before others. The induction is on the items. -/
theorem foldlM {recordedStep : β → α → StateM (σ × List Exchange) β} {step : β → α → StateM σ β}
    (covers : List α → β → β → List Exchange → Prop) (empty : ∀ state, covers [] state state [])
    (cons : ∀ {item items first second third added more}, covers [item] first second added →
      covers items second third more → covers (item :: items) first third (added ++ more))
    (steps : ∀ state item,
      Records (recordedStep state item) (step state item) (covers [item] state))
    (items : List α) (state : β) :
    Records (items.foldlM recordedStep state) (items.foldlM step state) (covers items state) := by
  induction items generalizing state with
  | nil => exact .pure (empty state)
  | cons item items inductionHypothesis =>
    rw [List.foldlM_cons, List.foldlM_cons]
    refine (steps state item).bind ?_
    intro between added first state log
    obtain ⟨more, runs, others⟩ := inductionHypothesis between state log
    exact ⟨more, runs, cons first others⟩

end Records

/-- Whether an answer says that the resource is at the destination. -/
def FetchOutcome.delivers : FetchOutcome → Bool
  | saved _ | alreadyPresent _ => true
  | rateLimited _ | failed _ => false

/-- A visit to a URL: the hints with which its fetches were turned down, and the answer to the last
fetch. -/
structure Visit where
  hints : List (Option Duration)
  last : FetchOutcome
  deriving Repr, DecidableEq

namespace Visit

/-- The number of fetches of a visit. -/
def fetches (visit : Visit) : Nat := visit.hints.length + 1

/-- The calls of a visit. Every fetch is one of the same URL into the same file, and between two
of them there is one pause. -/
def exchanges (policy : Policy) (url destination : String) (visit : Visit) : List Exchange :=
  visit.hints.flatMap (fun hint =>
    [.fetched url destination (.rateLimited hint), .paused (policy.delayFor hint)]) ++
    [.fetched url destination visit.last]

/-- What a visit leads to. -/
def result (policy : Policy) (url : String) (visit : Visit) : Except RetrievalError Retrieved :=
  match visit.last with
  | .saved bytes => .ok ⟨bytes, false⟩
  | .alreadyPresent bytes => .ok ⟨bytes, true⟩
  | .failed reason => .error (.failed url reason)
  | .rateLimited _ => .error (.rateLimited url policy.attempts)

/-- A visit is successful exactly if its last fetch is. -/
theorem isOk_result (policy : Policy) (url : String) (visit : Visit) :
    (visit.result policy url).isOk = visit.last.delivers := by
  unfold result
  cases visit.last <;> rfl

/-- The fetches among the calls of a visit. -/
theorem fetched_mem_exchanges {policy : Policy} {url destination target file : String}
    {visit : Visit} {answer : FetchOutcome} :
    .fetched target file answer ∈ visit.exchanges policy url destination ↔
      target = url ∧ file = destination ∧
        (answer = visit.last ∨ ∃ hint ∈ visit.hints, answer = .rateLimited hint) := by
  simp only [exchanges, List.mem_append, List.mem_flatMap, List.mem_cons, List.not_mem_nil,
    or_false, reduceCtorEq, Exchange.fetched.injEq]
  grind

/-- A visit makes use of the attempts: it does not need more than there are, and it does not end
with a fetch that was turned down as long as any are left. -/
structure Uses (attempts : Nat) (visit : Visit) : Prop where
  bounded : visit.fetches ≤ attempts
  exhausted : ∀ hint, visit.last = .rateLimited hint → visit.fetches = attempts

/-- A visit of a single fetch. -/
theorem uses_single {left : Nat} {answer : FetchOutcome}
    (final : ∀ hint, answer ≠ .rateLimited hint) : Uses (left + 1) ⟨[], answer⟩ where
  bounded := Nat.le_add_left 1 left
  exhausted hint limited := absurd limited (final hint)

/-- A visit with a fetch before it that was turned down. -/
theorem uses_cons {left : Nat} {visit : Visit} (uses : visit.Uses left) (hint : Option Duration) :
    Uses (left + 1) ⟨hint :: visit.hints, visit.last⟩ where
  bounded := Nat.succ_le_succ uses.bounded
  exhausted other limited := congrArg Nat.succ (uses.exhausted other limited)

end Visit

variable (retriever : Retriever (StateM σ)) (policy : Policy) (url destination : String)

/-- A fetch is recorded with its answer. -/
theorem fetch_records :
    Records (retriever.recording.fetch url destination) (retriever.fetch url destination)
      fun answer added => added = [.fetched url destination answer] := by
  intro state log
  exact ⟨_, rfl, rfl⟩

/-- A pause is recorded. -/
theorem pause_records (duration : Duration) :
    Records (retriever.recording.pause duration) (retriever.pause duration)
      fun _ added => added = [.paused duration] := by
  intro state log
  exact ⟨_, rfl, rfl⟩

/-- A number of attempts makes one visit. The induction is on the attempts that are left: a fetch
that is turned down becomes the first one of the visit that the other attempts make. -/
theorem attempt_records {left : Nat} (positive : 0 < left) :
    Records (retriever.recording.attempt policy url destination left)
      (retriever.attempt policy url destination left) fun result added =>
        ∃ visit : Visit, visit.Uses left ∧ result = visit.result policy url ∧
          added = visit.exchanges policy url destination := by
  induction left with
  | zero => exact absurd positive (Nat.lt_irrefl 0)
  | succ left inductionHypothesis =>
    unfold Retriever.attempt
    refine (fetch_records retriever url destination).bind ?_
    rintro answer _ rfl
    cases answer with
    | saved bytes =>
      exact .pure ⟨⟨[], .saved bytes⟩, Visit.uses_single nofun, rfl, rfl⟩
    | alreadyPresent bytes =>
      exact .pure ⟨⟨[], .alreadyPresent bytes⟩, Visit.uses_single nofun, rfl, rfl⟩
    | failed reason =>
      exact .pure ⟨⟨[], .failed reason⟩, Visit.uses_single nofun, rfl, rfl⟩
    | rateLimited hint =>
      dsimp only
      by_cases last : left = 0
      · subst last
        rw [if_neg (fun more => more rfl), if_neg (fun more => more rfl)]
        refine .pure ⟨⟨[], .rateLimited hint⟩, ⟨Nat.le_refl 1, fun _ _ => rfl⟩, rfl, rfl⟩
      · rw [if_pos last, if_pos last]
        refine (pause_records retriever (policy.delayFor hint)).bind ?_
        rintro ⟨⟩ _ rfl state log
        obtain ⟨added, runs, visit, uses, result, same⟩ :=
          inductionHypothesis (Nat.pos_of_ne_zero last) state log
        have whole := Visit.uses_cons uses hint
        refine ⟨added, runs, ⟨hint :: visit.hints, visit.last⟩, whole, result, ?_⟩
        rw [same]
        rfl

/-- A retrieval makes one visit, with at most as many fetches as the policy has attempts. -/
theorem retrieve_records :
    Records (retriever.recording.retrieve policy url destination)
      (retriever.retrieve policy url destination) fun result added =>
        ∃ visit : Visit, visit.Uses policy.attempts ∧ result = visit.result policy url ∧
          added = visit.exchanges policy url destination :=
  attempt_records retriever policy url destination (Nat.le_max_left 1 policy.maxAttempts)

end LinkSieve.Retrieval
