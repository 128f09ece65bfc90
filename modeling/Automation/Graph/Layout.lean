import Automation.Graph.Basic
import Automation.Step.Basic

/-!
# Layout

Nodes are laid out from left to right, one column after the other. Steps that may run in parallel
and follow each other share a column and are put below each other.
-/

namespace Automation.Layout

/-- The place of the first node. -/
def origin : Position := ⟨250, 300⟩

/-- How far one column is from the next. -/
def columnWidth : Int := 400

/-- How far a node is below the one above it. -/
def rowHeight : Int := 200

/-- The place of a step after the step before it. -/
def next (place : Position) (previous step : Step) : Position :=
  if step.parallelizable && previous.parallelizable then ⟨place.x, place.y + rowHeight⟩
  else ⟨place.x + columnWidth, origin.y⟩

/-- The places of the steps after a given one. -/
def placesFrom (place : Position) (previous : Step) : List Step → List Position
  | [] => []
  | step :: rest =>
    let here := next place previous step
    here :: placesFrom here step rest

/-- The places of all steps. -/
def places : List Step → List Position
  | [] => []
  | step :: rest => origin :: placesFrom origin step rest

end Automation.Layout
