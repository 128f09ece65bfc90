import Automation.Stage.Basic
import Automation.Stage.Prompt
import Automation.Step.Guard
import Automation.Step.Merge
import Automation.Step.Reading

/-!
# The stage that revises steps

The service is shown the steps and may change them. A revision is accepted only if it keeps the
trigger and leaves every error handler on the step it guards; parallel steps of one kind are then
merged. Otherwise the steps stay as they are.
-/

namespace Automation.Stage

/-- The steps to be revised, taken from a store. -/
def optimizationInput (store : Store) : Except Failure (List Step) :=
  match store.architectureSteps with
  | some steps => .ok steps
  | none => .error (.missing "architecture_steps")

/-- What the service is shown of some steps. -/
def optimizationMessage (steps : List Step) : Text :=
  let shown := Json.ofFields [("steps", .array (steps.map Step.compact))]
  "Workflow to optimize:\n" ++ shown.write (.asciiLines)
    ++ "\n\nProvide the optimized version."

/-- The revision of some steps that a document describes. -/
def readOptimization (steps : List Step) (document : Json) : Verdict (List Step) :=
  match Step.readList document with
  | none => .failed .unbounded
  | some listed =>
    let revised := Step.repair listed
    if revised.isEmpty || !Step.triggerPreserved steps revised
        || !Step.guardsPreserved steps revised then .rejected
    else .accepted (Step.mergeParallel revised)

/-- Revises the steps of a workflow. -/
def optimization : Stage (List Step) (List Step) where
  name := "optimization"
  announcement := "Optimizing for performance and cost..."
  progress := 80
  input := optimizationInput
  userMessage steps := .ok (optimizationMessage steps)
  systemPrompt _ := Prompt.optimization
  validate := readOptimization
  fallback steps := steps
  put steps store := { store with optimizedSteps := some steps }

end Automation.Stage
