import Automation.Stage.Basic
import Automation.Stage.Prompt
import Automation.Step.Reading

/-!
# The stage that designs steps

The service is shown the task and its mapping. Any list with at least one step is accepted, and is
put in order. Without one the plan is a single step that starts by hand.
-/

namespace Automation.Stage

variable [Limits]

/-- A task and its mapping. -/
structure ArchitectureInput where
  /-- The task. -/
  task : Json
  /-- The mapping. -/
  mapping : TechnicalMapping
  deriving DecidableEq, Repr

/-- The input of a design, taken from a store. -/
def architectureInput (store : Store) : Except Failure ArchitectureInput :=
  match store.task, store.mapping with
  | some task, some mapping => .ok ⟨task, mapping⟩
  | none, _ => .error (.missing "task")
  | _, none => .error (.missing "mapping")

/-- What the service is shown of a task and its mapping. -/
def architectureMessage (input : ArchitectureInput) : Except Failure Text :=
  match input.mapping.shown? with
  | none => .error .unwritable
  | some shown =>
    .ok ("Original task: " ++ input.task.display ++ "\n\nTechnical mapping:\n" ++ shown
      ++ "\n\nDesign the complete workflow architecture.")

/-- The steps that a document lists, in order. -/
def readArchitecture (document : Json) : Verdict (List Step) :=
  match Step.readList document with
  | none => .failed .unbounded
  | some [] => .rejected
  | some steps => .accepted (Step.repair steps)

/-- Designs the steps of a workflow. -/
def architecture : Stage ArchitectureInput (List Step) where
  name := "architecture"
  announcement := "Designing workflow architecture..."
  progress := 60
  input := architectureInput
  userMessage := architectureMessage
  systemPrompt _ := Prompt.architecture
  validate _ := readArchitecture
  fallback _ := [.manualTrigger]
  put steps store := { store with architectureSteps := some steps }

end Automation.Stage
