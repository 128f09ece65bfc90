import Automation.Graph.Assembly
import Automation.Proofs.Graph.UniqueNames

/-!
# The nodes of an assembled workflow

A workflow has one node per step, made of the step, its name and its position. The names are pairwise
distinct.
-/

namespace Automation

@[simp] theorem Layout.length_placesFrom (place : Position) (previous : Step) (steps : List Step) :
    (placesFrom place previous steps).length = steps.length := by
  induction steps generalizing place previous with
  | nil => rfl
  | cons step rest ih => simp [placesFrom, ih]

@[simp] theorem Layout.length_places (steps : List Step) : (places steps).length = steps.length := by
  cases steps <;> simp [places]

namespace Assembler

variable (a : Assembler) (steps : List Step) (task : Text)

@[simp] theorem length_names : (a.names steps).length = steps.length := by
  simp [names]

/-- The nodes of a workflow have pairwise distinct names. -/
theorem nodup_names : (a.names steps).Nodup :=
  Naming.nodup_names _

@[simp] theorem length_nodes : (a.assemble steps task).nodes.length = steps.length := by
  simp [assemble]

/-- The node at a place is made of the step, the name and the position there. -/
theorem getElem_nodes {i : Nat} (h : i < (a.assemble steps task).nodes.length) (hs : i < steps.length)
    (hn : i < (a.names steps).length) (hp : i < (Layout.places steps).length) :
    (a.assemble steps task).nodes[i] = a.node i steps[i] (a.names steps)[i] (Layout.places steps)[i] := by
  simp [assemble]

theorem name_getElem_nodes {i : Nat} (hg : i < (a.assemble steps task).nodes.length)
    (hn : i < (a.names steps).length) : (a.assemble steps task).nodes[i].name = (a.names steps)[i] := by
  rw [a.getElem_nodes steps task hg (by simpa using hn) hn (by simpa using hn), node]

theorem map_name_nodes : (a.assemble steps task).nodes.map GraphNode.name = a.names steps := by
  refine List.ext_getElem (by simp) fun i h hn => ?_
  rw [List.getElem_map, name_getElem_nodes]

end Assembler

end Automation
