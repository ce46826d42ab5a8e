/-!
# Retry policies

A retrieval that a server turns down for coming too often is tried again after a pause. The policy says
how long the pauses are and how many attempts are made.
-/

namespace LinkSieve.Retrieval

/-- A length of time. -/
structure Duration where
  nanoseconds : Nat
  deriving Repr, DecidableEq

namespace Duration

/-- No time. -/
def zero : Duration := ⟨0⟩

/-- The number of nanoseconds in a second. -/
def nanosecondsPerSecond : Nat := 1000000000

/-- A number of seconds and a number of nanoseconds, which may exceed a second. -/
def ofParts (seconds nanoseconds : Nat) : Duration :=
  ⟨seconds * nanosecondsPerSecond + nanoseconds⟩

/-- A number of seconds. -/
def ofSeconds (seconds : Nat) : Duration := ofParts seconds 0

/-- The whole seconds of a duration. -/
def seconds (duration : Duration) : Nat := duration.nanoseconds / nanosecondsPerSecond

/-- The nanoseconds beside the whole seconds. -/
def subseconds (duration : Duration) : Nat := duration.nanoseconds % nanosecondsPerSecond

end Duration

/-- How to go on after a rate-limited attempt. -/
structure Policy where
  /-- A fixed pause. Zero leaves the pause to the server. -/
  wait : Duration
  /-- The pause if the server names none. -/
  defaultRetryAfter : Duration
  maxAttempts : Nat
  deriving Repr, DecidableEq

namespace Policy

/-- Up to five attempts, with the pauses that the server asks for, or else of half a minute. -/
def default : Policy := ⟨.zero, .ofSeconds 30, 5⟩

/-- The number of attempts that are made: one at least. -/
def attempts (policy : Policy) : Nat := max 1 policy.maxAttempts

/-- The pause after an attempt that was turned down with a hint or without one. A fixed pause wins over
the hint, and a hint of zero is a hint. -/
def delayFor (policy : Policy) (hint : Option Duration) : Duration :=
  if policy.wait ≠ .zero then policy.wait else hint.getD policy.defaultRetryAfter

end Policy

end LinkSieve.Retrieval
