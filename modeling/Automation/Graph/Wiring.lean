import Automation.Graph.Basic
import Automation.Step.Basic

/-!
# Wiring

Each step leads to the next one. A step leads to an error handler through its channel for errors and
to any other step through its main channel; what a handler leads to is reached through its own main
channel. All edges of a source on one channel share one lane.
-/

namespace Automation

/-- A channel of a node. -/
inductive Channel where
  /-- For what comes out in the ordinary way. -/
  | main
  /-- For errors. -/
  | error
  deriving DecidableEq, Repr

/-- An edge from one node to another. -/
structure Edge where
  /-- The name of the source. -/
  source : Text
  /-- The channel of the source. -/
  channel : Channel
  /-- The name of the target. -/
  target : Text
  deriving DecidableEq, Repr

namespace Wiring

/-- The channel through which a step is reached. -/
def channelTo (step : Step) : Channel :=
  if step.isErrorHandler then .error else .main

/-- The edges between neighbouring steps, whose nodes have given names. -/
def edges (steps : List Step) (names : List Text) : List Edge :=
  List.zipWith (fun (source, target) step => ⟨source, channelTo step, target⟩)
    (names.zip (names.drop 1)) (steps.drop 1)

/-- Lanes with a target added to the first one. -/
def addToLanes (target : Text) : Option Lanes → Lanes
  | some (lane :: rest) => (lane ++ [{ node := target }]) :: rest
  | _ => [[{ node := target }]]

/-- The connections of a node with a target added on a channel. -/
def extend (c : NodeConnections) (target : Text) : Channel → NodeConnections
  | .main => { c with main := some (addToLanes target c.main) }
  | .error => { c with error := some (addToLanes target c.error) }

/-- Connections with an edge added. -/
def link : Connections → Edge → Connections
  | [], edge => [(edge.source, extend {} edge.target edge.channel)]
  | (source, c) :: rest, edge =>
    if source = edge.source then (source, extend c edge.target edge.channel) :: rest
    else (source, c) :: link rest edge

/-- The connections that consist of some edges. -/
def ofEdges (edges : List Edge) : Connections :=
  edges.foldl link []

/-- The connections of steps whose nodes have given names; nothing if names are missing. A single
step needs no name. -/
def wire? (steps : List Step) (names : List Text) : Option Connections :=
  if names.length < steps.length ∧ 1 < steps.length then none
  else some (ofEdges (edges steps names))

end Wiring

end Automation
