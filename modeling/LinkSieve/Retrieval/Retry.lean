import LinkSieve.Retrieval.Policy
/-!
# Retrieving with retries

A retriever fetches a URL into a file and can pause. How it does so is a matter of the monad that it
works in, so the same loop drives a network client, a copy within a file system, and a script of
answers.

An attempt that is rate limited is repeated after a pause while attempts are left. Every other answer
ends the retrieval.
-/

namespace LinkSieve.Retrieval

/-- The answer to a single attempt. -/
inductive FetchOutcome where
  /-- The resource was written to the destination. -/
  | saved (bytes : Nat)
  /-- The destination is the resource itself and was left alone. -/
  | alreadyPresent (bytes : Nat)
  /-- The server asked for fewer requests. -/
  | rateLimited (retryAfter : Option Duration)
  /-- Any other failure, which is final. -/
  | failed (reason : String)
  deriving Repr, DecidableEq

/-- Means to fetch a URL into a file and to pause. -/
structure Retriever (m : Type → Type) where
  fetch : (url destination : String) → m FetchOutcome
  pause : Duration → m Unit

/-- What a successful retrieval left at the destination. -/
structure Retrieved where
  bytes : Nat
  alreadyPresent : Bool
  deriving Repr, DecidableEq

/-- Why a retrieval was given up. -/
inductive RetrievalError where
  | rateLimited (url : String) (attempts : Nat)
  | failed (url reason : String)
  deriving Repr, DecidableEq

/-- The wording of the error. -/
def RetrievalError.message : RetrievalError → String
  | rateLimited url attempts =>
    "Still rate limited after " ++ toString attempts ++ " attempts: " ++ url
  | failed url reason => "Failed to download " ++ url ++ ": " ++ reason

variable {m : Type → Type} [Monad m]

/-- Fetches with at most `left` further attempts. No pause follows the last one. -/
def Retriever.attempt (retriever : Retriever m) (policy : Policy) (url destination : String) :
    (left : Nat) → m (Except RetrievalError Retrieved)
  | 0 => return .error (.rateLimited url policy.attempts)
  | left + 1 => do
    match ← retriever.fetch url destination with
    | .saved bytes => return .ok ⟨bytes, false⟩
    | .alreadyPresent bytes => return .ok ⟨bytes, true⟩
    | .failed reason => return .error (.failed url reason)
    | .rateLimited hint =>
      if left ≠ 0 then retriever.pause (policy.delayFor hint)
      retriever.attempt policy url destination left

/-- Fetches a URL into a file, with the attempts that the policy allows. -/
def Retriever.retrieve (retriever : Retriever m) (policy : Policy) (url destination : String) :
    m (Except RetrievalError Retrieved) :=
  retriever.attempt policy url destination policy.attempts

end LinkSieve.Retrieval
