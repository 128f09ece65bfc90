import Automation.Chars.Case
import Automation.Graph.Assembly
import Automation.Json.Dump
import Automation.Json.Printer

/-!
# Exporting workflows

A workflow is exported as a document, unless that cannot be written out. Nodes and connections are
gone through twice: once part by part, where nothing is known of the values of parameters, and then
as a whole, so that the same values lie two levels deeper.

It is exported under a file name made of its own name: runs of other characters than the letters a
to z and the digits become single hyphens, after the usual beginning of the name is taken off and
the rest is put in lower case.
-/

namespace Automation

variable [Limits]

/-- The first fault in the values of some members, the keys of which are made strings. -/
def Members.dumpFault? (members : Members) : Option DumpFault :=
  members.findSome? fun (_, value) => value.dumpFault? Limits.depth

/-- The first fault of a node that is written out. -/
def GraphNode.dumpFault? (n : GraphNode) : Option DumpFault :=
  n.parameters.dumpFault?.or (n.toJson.dumpFault? Limits.depth)

namespace WorkflowGraph

/-- The first fault of a workflow that is written out. -/
def dumpFault? (g : WorkflowGraph) : Option DumpFault :=
  (g.nodes.findSome? GraphNode.dumpFault?).or
    ((g.connections.findSome? fun (_, c) => c.toJson.dumpFault? Limits.depth).or g.settings.dumpFault?)

/-- A workflow as the text that is imported, or why there is none; by default its levels are indented by
two spaces. -/
def exportText (g : WorkflowGraph) (indent : Option Text := some Json.Style.twoSpaces) :
    Except DumpFault Text :=
  match g.dumpFault? with
  | some fault => .error fault
  | none =>
    if g.toJson.hasShortIntegers then .ok (Json.write (.indented indent) g.toJson)
    else .error .digits

/-- The runs of letters and digits of a text in lower case. -/
def slugWords (name : Text) : List Text :=
  Catalog.termRuns [] name.lower

/-- A name without the usual beginning. -/
def bareName (name : Text) : Text :=
  if Assembler.titleStart.isPrefixOf name then name.drop Assembler.titleStart.length else name

/-- The file name under which a workflow is exported if nothing is left of its name. -/
def fallbackFilename : Text := "automation-workflow.json"

/-- The file name under which a workflow is exported. -/
def exportFilename (g : WorkflowGraph) : Text :=
  match slugWords (bareName g.name) with
  | [] => fallbackFilename
  | words => Text.join "-" words ++ ".json"

end WorkflowGraph

end Automation
