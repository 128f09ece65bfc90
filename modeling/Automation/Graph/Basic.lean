import Automation.Record

/-!
# Workflow graphs

A workflow that can be imported: nodes with their parameters and places, and for each node the nodes
it goes on to. A node has two channels, the main one and one for errors. A channel holds lanes, and
a lane the targets that are reached through it. A channel may be absent, which is not the same as a
channel without lanes; nor are absent credentials the same as none.
-/

namespace Automation

/-- A place on the canvas. -/
structure Position where
  /-- How far to the right. -/
  x : Int
  /-- How far down. -/
  y : Int
  deriving DecidableEq, Repr, Inhabited

/-- A reference to stored credentials. -/
structure CredentialRef where
  /-- Their identity. -/
  id : Text
  /-- Their name. -/
  name : Text
  deriving DecidableEq, Repr, Inhabited

/-- A node of a workflow. -/
structure GraphNode where
  /-- Its parameters. -/
  parameters : Members
  /-- Its name. -/
  name : Text
  /-- Its type. -/
  type : Text
  /-- The version of its type. -/
  typeVersion : Int
  /-- Its place. -/
  position : Position
  /-- Its identity. -/
  id : Text
  /-- Its credentials by their kind. -/
  credentials : Option (List (Text × CredentialRef))
  deriving DecidableEq, Repr, Inhabited

/-- Where a lane leads. -/
structure ConnectionTarget where
  /-- The name of the node. -/
  node : Text
  /-- The kind of input. -/
  type : Text := "main"
  /-- The number of the input. -/
  index : Int := 0
  deriving DecidableEq, Repr, Inhabited

/-- The lanes of a channel. -/
abbrev Lanes := List (List ConnectionTarget)

/-- Where a node goes on to. -/
structure NodeConnections where
  /-- The main channel. -/
  main : Option Lanes := none
  /-- The channel for errors. -/
  error : Option Lanes := none
  deriving DecidableEq, Repr, Inhabited

/-- The connections of a workflow by the names of their sources. -/
abbrev Connections := List (Text × NodeConnections)

/-- A workflow. -/
structure WorkflowGraph where
  /-- Its name. -/
  name : Text
  /-- Its nodes. -/
  nodes : List GraphNode := []
  /-- Its connections. -/
  connections : Connections := []
  /-- Whether it runs. -/
  active : Bool := false
  /-- Its settings. -/
  settings : Members := []
  /-- Its tags. -/
  tags : List Text := []
  deriving DecidableEq, Repr, Inhabited

namespace Position

/-- A place as a pair. -/
def toJson (p : Position) : Json :=
  .array [.int p.x, .int p.y]

/-- A place from a pair. -/
def check : Json → Checked Position
  | .array [x, y] => Position.mk <$> .leaf Json.int? x <*> .leaf Json.int? y
  | value => .invalid [{ place := "", found := value }]

end Position

namespace CredentialRef

/-- A reference as a document. -/
def toJson (c : CredentialRef) : Json :=
  .ofFields [("id", c.id), ("name", c.name)]

/-- A reference from a document. -/
def ofMembers (members : Members) : Checked CredentialRef :=
  CredentialRef.mk <$> members.required ["id"] (.leaf Json.text?)
    <*> members.required ["name"] (.leaf Json.text?)

end CredentialRef

/-- A table as an object that is handed to others. -/
def tableToJson {α : Type} (encode : α → Json) (table : List (Text × α)) : Json :=
  .object (Members.portable (table.map fun (key, value) => (key, encode value)))

namespace GraphNode

/-- A node as a document; absent credentials are left out. -/
def toJson (n : GraphNode) : Json :=
  .ofFields ([
    ("parameters", .object n.parameters.portable), ("name", (n.name : Json)), ("type", n.type),
    ("typeVersion", .int n.typeVersion), ("position", n.position.toJson), ("id", n.id)]
    ++ match n.credentials with
      | some table => [("credentials", tableToJson CredentialRef.toJson table)]
      | none => [])

/-- A node from a document. -/
def ofMembers (members : Members) : Checked GraphNode :=
  GraphNode.mk <$> members.optional ["parameters"] [] (.leaf Json.members?)
    <*> members.required ["name"] (.leaf Json.text?)
    <*> members.required ["type"] (.leaf Json.text?)
    <*> members.optional ["typeVersion"] 1 (.leaf Json.int?)
    <*> members.required ["position"] Position.check
    <*> members.required ["id"] (.leaf Json.text?)
    <*> members.optional ["credentials"] none
      (Json.nullable (Json.table (Json.record CredentialRef.ofMembers)))

end GraphNode

namespace ConnectionTarget

/-- A target as a document. -/
def toJson (t : ConnectionTarget) : Json :=
  .ofFields [("node", t.node), ("type", t.type), ("index", .int t.index)]

/-- A target from a document. -/
def ofMembers (members : Members) : Checked ConnectionTarget :=
  ConnectionTarget.mk <$> members.required ["node"] (.leaf Json.text?)
    <*> members.optional ["type"] "main" (.leaf Json.text?)
    <*> members.optional ["index"] 0 (.leaf Json.int?)

end ConnectionTarget

namespace NodeConnections

/-- The lanes of a channel as a document. -/
def lanesToJson (lanes : Lanes) : Json :=
  .array (lanes.map fun lane => .array (lane.map ConnectionTarget.toJson))

/-- Connections as a document; absent channels are left out. -/
def toJson (c : NodeConnections) : Json :=
  .ofFields
    ((c.main.toList.map fun lanes => ("main", lanesToJson lanes))
      ++ c.error.toList.map fun lanes => ("error", lanesToJson lanes))

/-- The lanes of a channel from a document. -/
def readLanes : Json → Checked Lanes :=
  Json.list (Json.list (Json.record ConnectionTarget.ofMembers))

/-- Connections from a document. -/
def ofMembers (members : Members) : Checked NodeConnections :=
  NodeConnections.mk <$> members.optional ["main"] none (Json.nullable readLanes)
    <*> members.optional ["error"] none (Json.nullable readLanes)

/-- The names of all nodes that are reached, those of the main channel first. -/
def targets (c : NodeConnections) : List Text :=
  (c.main.getD [] ++ c.error.getD []).flatten.map ConnectionTarget.node

end NodeConnections

namespace WorkflowGraph

/-- A workflow as a document. -/
def toJson (g : WorkflowGraph) : Json :=
  .ofFields [
    ("name", g.name), ("nodes", .array (g.nodes.map GraphNode.toJson)),
    ("connections", tableToJson NodeConnections.toJson g.connections),
    ("active", .bool g.active), ("settings", .object g.settings.portable),
    ("tags", .ofTexts g.tags)]

/-- A workflow from the members of a document. -/
def ofMembers (members : Members) : Checked WorkflowGraph :=
  WorkflowGraph.mk <$> members.required ["name"] (.leaf Json.text?)
    <*> members.optional ["nodes"] [] (Json.list (Json.record GraphNode.ofMembers))
    <*> members.optional ["connections"] []
      (Json.table (Json.record NodeConnections.ofMembers))
    <*> members.optional ["active"] false (.leaf Json.flag?)
    <*> members.optional ["settings"] [] (.leaf Json.members?)
    <*> members.optional ["tags"] [] (Json.list (.leaf Json.text?))

/-- A workflow from a document. -/
def check : Json → Checked WorkflowGraph :=
  Json.record ofMembers

/-- The first node with a name. -/
def node? (g : WorkflowGraph) (name : Text) : Option GraphNode :=
  g.nodes.find? fun n => n.name == name

end WorkflowGraph

end Automation
