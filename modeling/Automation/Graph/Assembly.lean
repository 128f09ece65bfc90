import Automation.Catalog
import Automation.Graph.Layout
import Automation.Graph.Naming
import Automation.Graph.Wiring
import Automation.Rule.Standard

/-!
# Assembly

A list of steps becomes a workflow with one node per step, in their order, each connected to the
next. What a node looks like inside depends on its own step only: its type decides the version and
the credentials, and its parameters are those of the example of its type, adapted by the rules and
cleaned. A type that is not in the catalog gives a node with no parameters and no credentials.
-/

namespace Automation

/-- What workflows are assembled with. -/
structure Assembler where
  /-- The catalog of node types. -/
  catalog : Catalog
  /-- The rules by which parameters are adapted. -/
  rules : List Rule

namespace Assembler

/-- An assembler with a catalog, or the built-in one in the place of an empty one. -/
def new (catalog : Catalog) (rules : List Rule := Rule.standard) : Assembler :=
  ⟨catalog.orBuiltin, rules⟩

/-- What the name of an assembled workflow begins with. -/
def titleStart : Text := "Automation: "

/-- How much of the task is taken into the name of a workflow. -/
def taskLength : Nat := 50

/-- The settings of an assembled workflow. -/
def settings : Members := Json.membersOf [
  ("executionOrder", "v1"), ("saveExecutionProgress", .bool true),
  ("saveManualExecutions", .bool true)]

/-- The tags of an assembled workflow. -/
def tags : List Text := ["flowgen", "automated", "ai-generated"]

/-- The identity of credentials that are yet to be filled in. -/
def credentialPlaceholder : Text := "\x7b\x7bCREDENTIAL_ID\x7d\x7d"

/-- The parameters of a step of a type before they are cleaned. -/
def adapted (a : Assembler) (step : Step) (d : NodeDefinition) : Members :=
  Rule.customize a.rules step (some d) (d.exampleParameters.getD [])

/-- The parameters of the node of a step. -/
def parameters (a : Assembler) (step : Step) : Option NodeDefinition → Members
  | none => []
  | some d => ((ParameterModel.ofDefinition d).clean (a.adapted step d)).1

/-- The credentials of the node of a step. -/
def credentials (step : Step) : Option NodeDefinition → Option (List (Text × CredentialRef))
  | none => none
  | some d =>
    if d.credentialKinds.isEmpty then none
    else
      let owner := if step.service.isEmpty then d.displayName else step.service
      some (d.credentialKinds.eraseDups.map fun kind =>
        (kind, ⟨credentialPlaceholder, owner ++ " credentials"⟩))

/-- The node of a step with a name and a place. -/
def node (a : Assembler) (i : Nat) (step : Step) (name : Text) (position : Position) :
    GraphNode :=
  let definition := a.catalog.lookup step.nodeType
  { parameters := a.parameters step definition
    name
    type := step.nodeType
    typeVersion := (definition.map NodeDefinition.version).getD 1
    position
    id := "node-" ++ toString i
    credentials := credentials step definition }

/-- The names of the nodes of steps. -/
def names (a : Assembler) (steps : List Step) : List Text :=
  Naming.names (steps.map fun step => (step, a.catalog.lookup step.nodeType))

/-- The name of a workflow for a task. -/
def title (task : Text) : Text :=
  let shortened := task.trim.take taskLength
  if shortened.isEmpty then titleStart ++ "Untitled" else titleStart ++ shortened

/-- The workflow of a list of steps. -/
def assemble (a : Assembler) (steps : List Step) (task : Text := []) : WorkflowGraph :=
  let names := a.names steps
  { name := title task
    nodes := (steps.zip (names.zip (Layout.places steps))).mapIdx
      fun i (step, name, position) => a.node i step name position
    connections := Wiring.ofEdges (Wiring.edges steps names)
    active := false
    settings
    tags }

end Assembler

end Automation
