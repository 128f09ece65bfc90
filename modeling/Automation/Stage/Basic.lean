import Automation.Completion.Reading
import Automation.Stage.Run
import Automation.Stage.Store

/-!
# Stages

A stage reads its input from the store, asks the service once for a completion, reads a document
from it and makes its output of the document. If the completion holds no document, or one that the
stage rejects, the output is a fallback that depends on the input only, and the store records it.

## Retries

A stage makes a number of attempts; the first one that succeeds counts, and if all fail the failure
is that of the last one. An attempt fails if the call fails or if the document of the completion
exceeds a limit. A completion without a document is no failure.
-/

namespace Automation

/-- What is asked for when stages are set up; a missing option and a zero count as the default. -/
structure StageOptions where
  /-- The time limit of a call in seconds. -/
  timeout : Option Number := none
  /-- The number of attempts. -/
  maxRetries : Option Int := none
  /-- The first pause before a retry in seconds, where a zero counts as itself. -/
  wait : Option Number := none
  /-- How many types of nodes are offered. -/
  catalogLimit : Option Int := none
  deriving DecidableEq, Repr

namespace StageOptions

/-- The time limit of a call. -/
def timeLimit (o : StageOptions) : Number :=
  match o.timeout with
  | some t => if t.isZero then .float (.ofInt 120) else t
  | none => .float (.ofInt 120)

/-- The number of retries after the first attempt. -/
def retries (o : StageOptions) : Nat :=
  (o.maxRetries.getD 0 - 1).toNat

/-- The first pause before a retry. -/
def backoff (o : StageOptions) : Number :=
  o.wait.getD (.float (.ofInt 0))

/-- How many types of nodes are offered. -/
def offered (o : StageOptions) : Int :=
  match o.catalogLimit with
  | some n => if n = 0 then 40 else n
  | none => 40

/-- The pause before a retry: the first one is doubled for each further one. Nothing if there is no
pause, and a failure if it is too long to be counted. -/
def pause (o : StageOptions) (retry : Int) : Except Failure (Option Number) :=
  if retry = 0 ∨ o.backoff.isPositive = false then .ok none
  else
    match o.backoff.double (retry - 1) with
    | some delay => .ok (some delay)
    | none => .error .unbounded

end StageOptions

/-- What a stage makes of a document. -/
inductive Verdict (ο : Type) where
  /-- An output. -/
  | accepted (output : ο)
  /-- The document does not have the shape that is needed. -/
  | rejected
  /-- The document cannot be dealt with at all. -/
  | failed (failure : Failure)

/-- A stage with inputs and outputs of given types. -/
structure Stage (ι ο : Type) where
  /-- Its name. -/
  name : Text
  /-- What is told when it begins. -/
  announcement : Text
  /-- How far a run has come when it begins, in percent. -/
  progress : Int
  /-- Its input. -/
  input : Store → Except Failure ι
  /-- The message to be answered. -/
  userMessage : ι → Except Failure Text
  /-- The instructions. -/
  systemPrompt : ι → Text
  /-- What it makes of a document. -/
  validate : ι → Json → Verdict ο
  /-- Its output without a document. -/
  fallback : ι → ο
  /-- The store with its output. -/
  put : ο → Store → Store

namespace Stage

variable {ι ο : Type} [Limits]

/-- The event that is told when a stage begins. -/
def event (s : Stage ι ο) : ProgressEvent :=
  ⟨s.name, s.announcement, s.progress⟩

/-- The input of a stage and its request. -/
def prepare (s : Stage ι ο) (store : Store) : Except Failure (ι × CompletionRequest) := do
  let input ← s.input store
  let userMessage ← s.userMessage input
  return (input, { userMessage, systemPrompt := s.systemPrompt input })

/-- One attempt, being a retry with a number or the first attempt with the number zero. -/
def attempt (s : Stage ι ο) (o : StageOptions) (retry : Int) (request : CompletionRequest)
    (r : Run) : Except Failure Completion.Finding × Run :=
  match o.pause retry with
  | .error failure => (.error failure, r)
  | .ok pause =>
    let paused := { r with pauses := r.pauses ++ pause.toList }
    match paused.call s.name o.timeLimit request with
    | (.error failure, r) => (.error failure, r)
    | (.ok completion, r) => ((Completion.read completion).mapError Failure.beyond, r)

/-- Attempts until one succeeds, with a number of retries left. The attempts of a run are not told
that they are retries. -/
def attempts (s : Stage ι ο) (o : StageOptions) (request : CompletionRequest) :
    Nat → Run → Except Failure Completion.Finding × Run
  | 0, r => s.attempt o 0 request r
  | retries + 1, r =>
    match s.attempt o 0 request r with
    | (.ok finding, r) => (.ok finding, r)
    | (.error _, r) => s.attempts o request retries r

/-- The store with the fallback of a stage, and a record of it. -/
def fallBack (s : Stage ι ο) (store : Store) (input : ι) : Except Failure Store :=
  match Store.recordFallback store.fallbackStages s.name with
  | some record => .ok (s.put (s.fallback input) { store with fallbackStages := some record })
  | none => .error .noRecord

/-- The store with the output of a stage for what was found in a completion. -/
def finish (s : Stage ι ο) (store : Store) (input : ι) : Completion.Finding → Except Failure Store
  | .failure .. => s.fallBack store input
  | .value v =>
    match s.validate input v with
    | .accepted output => .ok (s.put output store)
    | .rejected => s.fallBack store input
    | .failed failure => .error failure

/-- A stage run on a store. -/
def run (s : Stage ι ο) (o : StageOptions) (listener : Option Listener) (store : Store) (r : Run) :
    Except Failure Store × Run :=
  let told := r.tell listener s.event
  match s.prepare store with
  | .error failure => (.error failure, told)
  | .ok (input, request) =>
    match s.attempts o request o.retries told with
    | (.error failure, r) => (.error failure, r)
    | (.ok finding, r) => (s.finish store input finding, r)

/-- A stage of which nothing is known but that it is one. -/
def unspecified : Stage Unit Unit where
  name := "stage"
  announcement := []
  progress := 0
  input _ := .error .notImplemented
  userMessage _ := .error .notImplemented
  systemPrompt _ := []
  validate _ _ := .failed .notImplemented
  fallback _ := ()
  put _ store := store

end Stage

end Automation
