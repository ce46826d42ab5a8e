import Mathlib.Data.ENat.Lattice
import LinkSieve.Proofs.Retrieval.Replay
/-!
# How often a retrieval is repeated

A retrieval is looked at against a sequence of answers, one for each attempt that might be made. The
sequence has no end, so that no bound on the attempts is built into it, and it may turn down every
attempt. How many attempts are made, how long the pauses between them are, and what the retrieval leads
to then follow from the policy and from the answers at the beginning of the sequence that turn the
attempt down.
-/

namespace LinkSieve.Retrieval

namespace FetchOutcome

/-- Whether an answer turns the attempt down for coming too early. -/
def isRateLimited : FetchOutcome → Bool
  | rateLimited _ => true
  | saved _ | alreadyPresent _ | failed _ => false

/-- The pause that an answer asks for. -/
def hint? : FetchOutcome → Option Duration
  | rateLimited hint => hint
  | saved _ | alreadyPresent _ | failed _ => none

/-- What a retrieval leads to if an answer ends it. -/
def result? (url : String) : FetchOutcome → Option (Except RetrievalError Retrieved)
  | saved bytes => some (.ok ⟨bytes, false⟩)
  | alreadyPresent bytes => some (.ok ⟨bytes, true⟩)
  | failed reason => some (.error (.failed url reason))
  | rateLimited _ => none

/-- An answer turns an attempt down if it asks for a pause, with a hint or without one. -/
theorem isRateLimited_eq_true_iff (answer : FetchOutcome) :
    answer.isRateLimited = true ↔ ∃ hint, answer = rateLimited hint := by
  cases answer <;> simp [isRateLimited]

end FetchOutcome

/-- An answer that does not turn the attempt down decides what a visit leads to. -/
theorem Visit.result?_last {visit : Visit} (policy : Policy) (url : String)
    (final : visit.last.isRateLimited = false) :
    visit.last.result? url = some (visit.result policy url) := by
  unfold Visit.result
  cases answer : visit.last with
  | rateLimited hint => simp [answer, FetchOutcome.isRateLimited] at final
  | saved bytes => rfl
  | alreadyPresent bytes => rfl
  | failed reason => rfl

/-- The retriever whose attempts are answered by a sequence. Its state is the number of answers that
were given. -/
def Retriever.answering (answers : Nat → FetchOutcome) : Retriever (StateM Nat) where
  fetch _ _ := fun given => (answers given, given + 1)
  pause _ := pure ()

/-- The number of answers at the beginning of a sequence that turn the attempt down: the place of the
first one that does not, or infinity. -/
noncomputable def leadingLimits (answers : Nat → FetchOutcome) : ℕ∞ :=
  ⨅ (place : Nat) (_ : (answers place).isRateLimited = false), (place : ℕ∞)

variable {answers : Nat → FetchOutcome}

/-- A sequence begins with a number of answers that turn the attempt down exactly if none of these
many answers does otherwise. -/
theorem le_leadingLimits_iff (count : Nat) :
    (count : ℕ∞) ≤ leadingLimits answers ↔
      ∀ place < count, (answers place).isRateLimited = true := by
  simp only [leadingLimits, le_iInf_iff, Nat.cast_le]
  constructor
  · intro bounded place before
    by_contra limited
    have after : count ≤ place := bounded place (Bool.eq_false_iff.mpr limited)
    omega
  · intro limited place final
    by_contra before
    have turnedDown := limited place (by omega)
    simp [final] at turnedDown

/-- The first answer that does not turn the attempt down has the number of those before it. -/
theorem leadingLimits_eq {count : Nat}
    (limited : ∀ place < count, (answers place).isRateLimited = true)
    (final : (answers count).isRateLimited = false) : leadingLimits answers = count := by
  refine le_antisymm ?_ ((le_leadingLimits_iff count).mpr limited)
  exact iInf₂_le count final

section Visits

variable {policy : Policy} {url destination : String} {visit : Visit} {given final : Nat}

/-- The answers to the fetches of a visit are those of the sequence, from the first that was not given
before on. The induction is on the fetches that were turned down. -/
theorem Replays.answers_visit
    (replays : Replays (.answering answers) given (visit.exchanges policy url destination) final) :
    final = given + visit.fetches ∧
      visit.hints.map .rateLimited ++ [visit.last] =
        (List.range' given visit.fetches).map answers := by
  obtain ⟨hints, last⟩ := visit
  induction hints generalizing given with
  | nil =>
    obtain ⟨same, rest⟩ := Replays.of_fetched replays
    have ended : final = given + 1 := Replays.of_nil rest
    have answered : last = answers given := same
    exact ⟨ended, by simp [Visit.fetches, answered]⟩
  | cons hint hints inductionHypothesis =>
    obtain ⟨same, rest⟩ := Replays.of_fetched replays
    have answered : .rateLimited hint = answers given := same
    cases rest with
    | paused duration rest =>
      have remaining : Replays (.answering answers) (given + 1)
          (Visit.exchanges policy url destination ⟨hints, last⟩) final := rest
      obtain ⟨ended, others⟩ := inductionHypothesis remaining
      simp only [Visit.fetches, List.length_cons] at ended others ⊢
      refine ⟨by omega, ?_⟩
      rw [List.range'_succ, List.map_cons, List.map_cons, List.cons_append, answered, others]

/-- The fetches of a visit have the answers at the beginning of a sequence. -/
def Visit.AnsweredBy (visit : Visit) (answers : Nat → FetchOutcome) : Prop :=
  visit.hints.map .rateLimited ++ [visit.last] = (List.range visit.fetches).map answers

namespace Visit.AnsweredBy

/-- The last fetch has the answer behind those to the fetches that were turned down. -/
theorem last (answered : visit.AnsweredBy answers) : answers visit.hints.length = visit.last := by
  have place := congrArg (·[visit.hints.length]?) answered
  simpa [Visit.fetches] using place.symm

/-- The answers before it turn the attempt down. -/
theorem limited (answered : visit.AnsweredBy answers) (place : Nat)
    (before : place < visit.hints.length) : (answers place).isRateLimited = true := by
  have same := congrArg (·[place]?) answered
  have inside : place < visit.fetches := Nat.lt_succ_of_lt before
  rw [List.getElem?_append_left (by simpa using before)] at same
  simp only [List.getElem?_map, List.getElem?_range inside, List.getElem?_eq_getElem before,
    Option.map_some, Option.some.injEq] at same
  rw [← same]
  rfl

/-- The calls of the visit. -/
theorem exchanges_eq (answered : visit.AnsweredBy answers) :
    visit.exchanges policy url destination =
      (List.range visit.hints.length).flatMap (fun place =>
        [.fetched url destination (answers place), .paused (policy.delayFor (answers place).hint?)]) ++
        [.fetched url destination (answers visit.hints.length)] := by
  rw [AnsweredBy, Visit.fetches, List.range_succ, List.map_append, List.map_singleton] at answered
  obtain ⟨limited, last⟩ := List.append_inj' answered rfl
  have turnedDown : (visit.hints.flatMap fun hint =>
      [Exchange.fetched url destination (.rateLimited hint), .paused (policy.delayFor hint)]) =
      (visit.hints.map .rateLimited).flatMap fun answer =>
        [.fetched url destination answer, .paused (policy.delayFor answer.hint?)] := by
    rw [List.flatMap_map]
    rfl
  rw [exchanges, turnedDown, limited, List.flatMap_map, List.singleton_inj.mp last]

end Visit.AnsweredBy

namespace Visit.Uses

variable {attempts : Nat}

/-- A visit that makes use of the attempts ends with the last one, which is turned down like all those
before it, or with the first answer that does not turn the attempt down. -/
theorem limited_or_final (uses : visit.Uses attempts) (answered : visit.AnsweredBy answers) :
    (visit.last.isRateLimited = true ∧ visit.fetches = attempts ∧
        (attempts : ℕ∞) ≤ leadingLimits answers) ∨
      (visit.last.isRateLimited = false ∧ visit.fetches ≤ attempts ∧
        leadingLimits answers = visit.hints.length) := by
  cases final : visit.last.isRateLimited with
  | true =>
    obtain ⟨hint, turnedDown⟩ := (FetchOutcome.isRateLimited_eq_true_iff _).mp final
    have exhausted : visit.fetches = attempts := uses.exhausted hint turnedDown
    refine Or.inl ⟨rfl, exhausted, (le_leadingLimits_iff attempts).mpr fun place inside => ?_⟩
    rw [← exhausted] at inside
    rcases Nat.lt_succ_iff_lt_or_eq.mp inside with before | rfl
    · exact answered.limited place before
    · rw [answered.last, final]
  | false =>
    rw [← answered.last] at final
    exact Or.inr ⟨rfl, uses.bounded, leadingLimits_eq answered.limited final⟩

/-- The number of pauses of a visit that makes use of the attempts. -/
theorem hints_eq (uses : visit.Uses attempts) (answered : visit.AnsweredBy answers) :
    (visit.hints.length : ℕ∞) = min (leadingLimits answers) (attempts - 1 : Nat) := by
  rcases uses.limited_or_final answered with ⟨-, exhausted, many⟩ | ⟨-, bounded, few⟩
  · have pauses : attempts - 1 = visit.hints.length := Nat.sub_eq_of_eq_add exhausted.symm
    have fewer : ((attempts - 1 : Nat) : ℕ∞) ≤ leadingLimits answers :=
      le_trans (Nat.cast_le.mpr (Nat.sub_le attempts 1)) many
    rw [min_eq_right fewer, pauses]
  · have fewer : leadingLimits answers ≤ (attempts - 1 : Nat) :=
      few.trans_le (Nat.cast_le.mpr (Nat.le_sub_one_of_lt bounded))
    rw [min_eq_left fewer, few]

/-- The number of its fetches, which is one more. -/
theorem fetches_eq (uses : visit.Uses attempts) (answered : visit.AnsweredBy answers) :
    (visit.fetches : ℕ∞) = min (leadingLimits answers + 1) attempts := by
  have positive : attempts - 1 + 1 = attempts :=
    Nat.sub_add_cancel (Nat.le_trans (Nat.le_add_left 1 _) uses.bounded)
  rw [Visit.fetches, Nat.cast_succ, uses.hints_eq answered, ← min_add_add_right, ← Nat.cast_succ,
    Nat.succ_eq_add_one, positive]

/-- The retrieval is given up exactly if every attempt was turned down. -/
theorem result_of_answers (uses : visit.Uses policy.attempts) (answered : visit.AnsweredBy answers)
    (url : String) :
    (policy.attempts ≤ leadingLimits answers →
        visit.result policy url = .error (.rateLimited url policy.attempts)) ∧
      (leadingLimits answers < policy.attempts →
        visit.last.result? url = some (visit.result policy url)) := by
  rcases uses.limited_or_final answered with ⟨limited, -, many⟩ | ⟨final, bounded, few⟩
  · obtain ⟨hint, turnedDown⟩ := (FetchOutcome.isRateLimited_eq_true_iff _).mp limited
    refine ⟨fun _ => ?_, fun less => absurd many (not_le.mpr less)⟩
    rw [Visit.result, turnedDown]
  · have less : leadingLimits answers < policy.attempts :=
      few.trans_lt (Nat.cast_lt.mpr bounded)
    exact ⟨fun many => absurd many (not_le.mpr less), fun _ => result?_last policy url final⟩

end Visit.Uses

end Visits

/-- A retrieval that is answered by a sequence makes one visit, whose fetches have the answers at the
beginning of the sequence. The record tells which calls the visit makes, and that it replays from no
answers given on tells which answers those are. -/
theorem exists_visit_of_answers (policy : Policy) (url destination : String)
    (answers : Nat → FetchOutcome) :
    ∃ visit : Visit, visit.Uses policy.attempts ∧
      (Retriever.answering answers).recording.retrieve policy url destination (0, []) =
        (visit.result policy url, visit.fetches, visit.exchanges policy url destination) ∧
      visit.AnsweredBy answers := by
  obtain ⟨added, run, visit, uses, result, calls⟩ :=
    retrieve_records (.answering answers) policy url destination 0 []
  obtain ⟨log, logged, replays⟩ :=
    attempt_replayed (.answering answers) policy url destination policy.attempts 0 []
  rw [Retriever.retrieve, List.nil_append] at run
  rw [run, List.nil_append] at logged
  rw [run, ← logged, calls] at replays
  obtain ⟨ended, answered⟩ := replays.answers_visit
  rw [Nat.zero_add] at ended
  rw [← List.range_eq_range'] at answered
  refine ⟨visit, uses, ?_, answered⟩
  rw [Retriever.retrieve, run, result, calls]
  exact congrArg (fun given => (visit.result policy url, given, _)) ended

/-- A retrieval does exactly what its policy says, whatever the answers are. It makes one fetch more
than there are answers at the beginning that turn the attempt down, but no more than the policy has
attempts, and one attempt at least. All fetches are of the URL into the file. A pause follows every
fetch that is turned down, except the last one that is allowed: the fixed pause of the policy, or else
the one that the answer asks for, or else the default one. If every allowed attempt was turned down,
the retrieval is given up, with the number of attempts; otherwise the first other answer decides, and
no later one is asked for. -/
theorem retrieve_follows_policy (policy : Policy) (url destination : String)
    (answers : Nat → FetchOutcome) :
    let attempts := max 1 policy.maxAttempts
    let limits := leadingLimits answers
    let pauseAfter (answer : FetchOutcome) : Duration :=
      if policy.wait ≠ .zero then policy.wait else answer.hint?.getD policy.defaultRetryAfter
    let (result, given, log) :=
      (Retriever.answering answers).recording.retrieve policy url destination (0, [])
    ∃ pauses : Nat,
      (pauses : ℕ∞) = min limits (attempts - 1 : Nat) ∧
      (given : ℕ∞) = min (limits + 1) attempts ∧
      given = pauses + 1 ∧
      log = (List.range pauses).flatMap (fun place =>
          [.fetched url destination (answers place), .paused (pauseAfter (answers place))]) ++
        [.fetched url destination (answers pauses)] ∧
      (attempts ≤ limits → result = .error (.rateLimited url attempts)) ∧
      (limits < attempts → (answers pauses).result? url = some result) := by
  intro attempts limits pauseAfter
  obtain ⟨visit, uses, run, answered⟩ := exists_visit_of_answers policy url destination answers
  have calls : visit.exchanges policy url destination =
      (List.range visit.hints.length).flatMap (fun place =>
        [.fetched url destination (answers place), .paused (pauseAfter (answers place))]) ++
        [.fetched url destination (answers visit.hints.length)] :=
    answered.exchanges_eq
  obtain ⟨exhausted, decided⟩ := uses.result_of_answers answered url
  rw [run]
  refine ⟨visit.hints.length, uses.hints_eq answered, uses.fetches_eq answered, rfl, calls,
    exhausted, ?_⟩
  rw [answered.last]
  exact decided

end LinkSieve.Retrieval
