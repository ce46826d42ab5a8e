import LinkSieve.Retrieval.Retry
/-!
# Scripted retrievals

A retriever that hands out prepared answers, and records what it is asked for. It is what the retry
loop and a harvest are observed with.
-/

namespace LinkSieve.Retrieval

/-- Something that a retriever was asked for. -/
inductive Event where
  | fetch (url destination : String)
  | pause (duration : Duration)
  deriving Repr, DecidableEq

/-- The answers that are left, and the events so far, with the last one first. -/
structure Script where
  answers : List FetchOutcome
  events : List Event
  deriving Repr, DecidableEq

namespace Script

/-- A script before the first event. -/
def start (answers : List FetchOutcome) : Script := ⟨answers, []⟩

/-- The events in their order. -/
def trace (script : Script) : List Event := script.events.reverse

/-- Hands out the next answer. After the last one every attempt fails. -/
def next (url destination : String) : StateM Script FetchOutcome := fun script =>
  let events := .fetch url destination :: script.events
  match script.answers with
  | answer :: answers => (answer, ⟨answers, events⟩)
  | [] => (.failed "script exhausted", ⟨[], events⟩)

/-- The retriever that follows a script. Its pauses take no time. -/
def retriever : Retriever (StateM Script) where
  fetch := next
  pause duration := modify fun script => { script with events := .pause duration :: script.events }

end Script

end LinkSieve.Retrieval
