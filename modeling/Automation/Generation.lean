import Automation.Graph.Export
import Automation.Stage.Architecture
import Automation.Stage.Decomposition
import Automation.Stage.Mapping
import Automation.Stage.Optimization

/-!
# Generation

A task becomes a workflow in four stages, each of which hands its output on to the next: the task is
taken apart, its pieces are mapped to types of nodes, steps are designed, and the steps are revised.
The steps that come out are put in order, and a plan without a trigger is replaced by a single step
that starts by hand. The steps are then assembled.

A run ends at the first stage that fails, and gives no result then.
-/

namespace Automation

/-- A generated workflow. -/
structure GenerationResult where
  /-- Its steps. -/
  steps : List Step
  /-- The workflow. -/
  workflow : WorkflowGraph
  /-- The names of the stages that fell back, in order. -/
  fallbackStages : List Text := []
  /-- The types of nodes that are not in the catalog, in the order of their first use. -/
  unknownNodeTypes : List Text := []
  deriving DecidableEq, Repr

/-- What workflows are generated with. -/
structure Generator where
  /-- The catalog of node types. -/
  catalog : Catalog
  /-- The assembler. -/
  assembler : Assembler
  /-- How the stages are set up. -/
  options : StageOptions := {}

namespace GenerationResult

/-- A result as a document. -/
def toJson (r : GenerationResult) : Json :=
  .ofFields [
    ("steps", .array (r.steps.map Step.toJson)),
    ("workflow", r.workflow.toJson),
    ("fallbackStages", .ofTexts r.fallbackStages),
    ("unknownNodeTypes", .ofTexts r.unknownNodeTypes)]

/-- A result from the members of a document. -/
def ofMembers (members : Members) : Checked GenerationResult :=
  GenerationResult.mk
    <$> members.required ["steps"] (Json.list Step.check)
    <*> members.required ["workflow"] WorkflowGraph.check
    <*> members.optional ["fallbackStages", "fallback_stages"] [] texts
    <*> members.optional ["unknownNodeTypes", "unknown_node_types"] [] texts
where
  /-- A list of texts. -/
  texts : Json → Checked (List Text) := Json.list (.leaf Json.text?)

end GenerationResult

namespace Generator

variable [Limits]

/-- A generator with a catalog, or the built-in one in the place of an empty one, and with rules. -/
def new (catalog : Catalog) (rules : List Rule := Rule.standard) (options : StageOptions := {}) :
    Generator where
  catalog := catalog.orBuiltin
  assembler := .new catalog.orBuiltin rules
  options

/-- The four stages, one after the other. -/
def runStages (g : Generator) (listener : Option Listener) (store : Store) (r : Run) :
    Except Failure Store × Run :=
  match Stage.decomposition.run g.options listener store r with
  | (.error failure, r) => (.error failure, r)
  | (.ok store, r) =>
    match (Stage.mapping g.catalog g.options.offered).run g.options listener store r with
    | (.error failure, r) => (.error failure, r)
    | (.ok store, r) =>
      match Stage.architecture.run g.options listener store r with
      | (.error failure, r) => (.error failure, r)
      | (.ok store, r) => Stage.optimization.run g.options listener store r

/-- The steps of a workflow: the revised ones in order, or a start by hand if none is a trigger. -/
def finalSteps (steps : List Step) : List Step :=
  let repaired := Step.repair steps
  if Step.hasLeadingTrigger repaired then repaired else [.manualTrigger]

/-- The types of nodes of steps that are not in the catalog, each once. -/
def unknownNodeTypes (g : Generator) (steps : List Step) : List Text :=
  ((steps.map Step.nodeType).filter fun t => !g.catalog.contains t).eraseDups

/-- What is told before the steps are assembled. -/
def assemblyEvent : ProgressEvent := ⟨"generation", "Generating n8n workflow file...", 90⟩

/-- What is told at the end. -/
def completionEvent : ProgressEvent := ⟨"complete", "Workflow generation complete!", 100⟩

/-- The names in a record of stages that fell back. -/
def recordedNames : Option Json → List Text
  | some (.array names) => names.filterMap Json.text?
  | _ => []

/-- The store at the beginning of a run. -/
def initialStore (task : Text) : Store :=
  { task := some (task : Json), fallbackStages := some (.array []) }

/-- The result for a task with the store that the stages left. -/
def result (g : Generator) (task : Text) (store : Store) : GenerationResult :=
  let steps := finalSteps (store.optimizedSteps.getD [])
  { steps
    workflow := g.assembler.assemble steps task
    fallbackStages := recordedNames store.fallbackStages
    unknownNodeTypes := g.unknownNodeTypes steps }

/-- The workflow for a task. -/
def generate (g : Generator) (listener : Option Listener) (task : Text) (r : Run) :
    Except Failure GenerationResult × Run :=
  let task := task.trim
  if task.isEmpty then (.error .blankTask, r)
  else
    match g.runStages listener (initialStore task) r with
    | (.error failure, r) => (.error failure, r)
    | (.ok store, r) =>
      let r := r.tell listener assemblyEvent
      (.ok (g.result task store), r.tell listener completionEvent)

end Generator

end Automation
