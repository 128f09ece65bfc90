import Automation.Stage.Basic
import Automation.Stage.Prompt

/-!
# The stage that takes a task apart

It accepts every object. If the object says nothing of what is done, the task itself is what is
done.
-/

namespace Automation.Stage

/-- What is done if nothing was said of it: the task. -/
def taskItself (task : Json) : Members :=
  Json.membersOf [("step", .int 1), ("action", task)]

/-- The decomposition of a task that a document describes. -/
def readDecomposition (task document : Json) : Verdict Decomposition :=
  match Decomposition.check document with
  | .invalid _ => .rejected
  | .valid d =>
    if d.processingSteps.isEmpty then .accepted { d with processingSteps := [taskItself task] }
    else .accepted d

/-- The task of a store; what is empty counts as missing. -/
def requiredTask (store : Store) : Except Failure Json :=
  match store.task with
  | some task => if task.isTruthy then .ok task else .error .noTask
  | none => .error .noTask

/-- Takes a task apart. -/
def decomposition : Stage Json Decomposition where
  name := "decomposition"
  announcement := "Breaking down your task into micro-steps..."
  progress := 10
  input := requiredTask
  userMessage task :=
    .ok ("Task to decompose: " ++ task.display
      ++ "\n\nProvide a detailed breakdown in JSON format.")
  systemPrompt _ := Prompt.decomposition
  validate := readDecomposition
  fallback _ := .empty
  put d store := { store with decomposition := some d }

end Automation.Stage
