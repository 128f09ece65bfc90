import Automation.Stage.Basic

/-!
# Stages that work in place

`Stage.run` hands on a new store, or none if it fails. Here a stage works on a store that stays where
it is, as the stores of a flow do. It writes in steps: the record of stages that fell back is begun
if there is none, the name of the stage is added to it, and the output is put at its place. Whatever
was written before a failure stays written.
-/

namespace Automation

namespace Store

/-- The keys of the entries of a store. -/
inductive Key where
  /-- The task. -/
  | task
  /-- The names of the stages that fell back. -/
  | fallbackStages
  /-- The task taken apart. -/
  | decomposition
  /-- The pieces mapped to types of nodes. -/
  | mapping
  /-- The steps as they were designed. -/
  | architectureSteps
  /-- The steps as they were revised. -/
  | optimizedSteps
  deriving DecidableEq, Repr

/-- What stands under a key. -/
abbrev Key.Value : Key → Type
  | task | fallbackStages => Json
  | decomposition => Decomposition
  | mapping => TechnicalMapping
  | architectureSteps | optimizedSteps => List Step

/-- The entry under a key, if it is there. -/
def get? (store : Store) : (key : Key) → Option key.Value
  | .task => store.task
  | .fallbackStages => store.fallbackStages
  | .decomposition => store.decomposition
  | .mapping => store.mapping
  | .architectureSteps => store.architectureSteps
  | .optimizedSteps => store.optimizedSteps

/-- A store with an entry under a key, in the place of the one that was there. -/
def set (store : Store) : (key : Key) → key.Value → Store
  | .task, task => { store with task := some task }
  | .fallbackStages, record => { store with fallbackStages := some record }
  | .decomposition, d => { store with decomposition := some d }
  | .mapping, m => { store with mapping := some m }
  | .architectureSteps, steps => { store with architectureSteps := some steps }
  | .optimizedSteps, steps => { store with optimizedSteps := some steps }

@[simp] theorem get?_set_self (store : Store) (key : Key) (value : key.Value) :
    (store.set key value).get? key = some value := by
  cases key <;> rfl

theorem get?_set_of_ne (store : Store) {key other : Key} (value : key.Value) (h : other ≠ key) :
    (store.set key value).get? other = store.get? other := by
  cases key <;> cases other <;> first | rfl | exact absurd rfl h

end Store

/-- Work on a store that stays where it is, and is left as it is at a failure. -/
abbrev InPlace := ExceptT Failure (StateM Store)

namespace InPlace

/-- What comes of some work, and the store it leaves. -/
def on {α : Type} (work : InPlace α) (store : Store) : Except Failure α × Store :=
  (ExceptT.run work).run store

/-- Begins the record of stages that fell back, unless there is one. -/
def beginRecord : InPlace Unit :=
  modify fun store => store.set .fallbackStages (store.fallbackStages.getD (.array []))

/-- Adds the name of a stage to the record, which has to be a list. -/
def record (stage : Text) : InPlace Unit := do
  match (← get).fallbackStages with
  | some (.array names) =>
    modify fun store => store.set .fallbackStages (.array (names ++ [.text stage]))
  | _ => throw .noRecord

end InPlace

namespace Stage

variable {ι ο : Type} [Limits]

/-- The fallback of a stage, once it is recorded. -/
def recordedFallback (s : Stage ι ο) (input : ι) : InPlace ο := do
  InPlace.beginRecord
  InPlace.record s.name
  return s.fallback input

/-- The output of a stage for what was found in a completion. -/
def settle (s : Stage ι ο) (input : ι) : Completion.Finding → InPlace ο
  | .failure .. => s.recordedFallback input
  | .value v =>
    match s.validate input v with
    | .accepted output => return output
    | .rejected => s.recordedFallback input
    | .failed failure => throw failure

/-- The last part of a stage: its output is made and put at its place. -/
def finishInPlace (s : Stage ι ο) (input : ι) (finding : Completion.Finding) : InPlace Unit := do
  let output ← s.settle input finding
  modify (s.put output)

/-- A stage run on a store that stays where it is. -/
def runInPlace (s : Stage ι ο) (o : StageOptions) (listener : Option Listener) (store : Store)
    (r : Run) : Except Failure Unit × Store × Run :=
  let told := r.tell listener s.event
  match s.prepare store with
  | .error failure => (.error failure, store, told)
  | .ok (input, request) =>
    match s.attempts o request o.retries told with
    | (.error failure, r) => (.error failure, store, r)
    | (.ok finding, r) =>
      let (result, store) := (s.finishInPlace input finding).on store
      (result, store, r)

end Stage

end Automation
