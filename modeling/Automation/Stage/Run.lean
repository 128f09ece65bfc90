import Automation.Completion.Request
import Automation.Failure
import Automation.Json.Display
import Automation.Progress.Event

/-!
# Runs

What is seen of a run from outside: the calls to the service that completes texts, the events that
were told, and the pauses before calls. The service is a script of replies, one for each call; after
the last one it cannot be reached any more.

## Time limits

A call is given up after a time limit. Of a script only a reply that never comes takes any time.
With a limit below zero the call is given up before it is made.
-/

namespace Automation

/-- What the service does at a call. -/
inductive Reply where
  /-- It completes the text. -/
  | text (completion : Text)
  /-- It cannot be reached or answers with an error. -/
  | failure (message : Text)
  /-- It breaks down in an unforeseen way. -/
  | crash (message : Text)
  /-- It never answers. -/
  | hang
  deriving DecidableEq, Repr

/-- A run as it is seen from outside. -/
structure Run where
  /-- The replies that are left. -/
  replies : List Reply
  /-- The requests of the calls that were made. -/
  requests : List CompletionRequest := []
  /-- The events that were told. -/
  events : List ProgressEvent := []
  /-- The pauses that were made, in seconds. -/
  pauses : List Number := []
  deriving DecidableEq, Repr

namespace Run

/-- The number of calls that were made. -/
def calls (r : Run) : Nat :=
  r.requests.length

/-- A run after an event was told. A listener that fails has still been told. -/
def tell (listener : Option Listener) (event : ProgressEvent) (r : Run) : Run :=
  match listener with
  | none => r
  | some hear =>
    match hear event with
    | .ok _ => { r with events := r.events ++ [event] }
    | .error _ => { r with events := r.events ++ [event] }

/-- What is told when a call is given up. -/
def timeoutMessage (stage : Text) (limit : Number) : Text :=
  stage ++ ": completion timed out after " ++ Json.display (.number limit) ++ "s"

/-- A call with a time limit, made in a stage. -/
def call (stage : Text) (limit : Number) (request : CompletionRequest) (r : Run) :
    Except Failure Text × Run :=
  let timeout := Failure.transport (timeoutMessage stage limit)
  if limit.isNegative then (.error timeout, r)
  else
    let made := { r with replies := r.replies.drop 1, requests := r.requests ++ [request] }
    match r.replies with
    | [] => (.error (.transport "script exhausted"), made)
    | .text completion :: _ => (.ok completion, made)
    | .failure message :: _ => (.error (.transport message), made)
    | .crash message :: _ => (.error (.crash message), made)
    | .hang :: _ => (.error timeout, made)

end Run

end Automation
